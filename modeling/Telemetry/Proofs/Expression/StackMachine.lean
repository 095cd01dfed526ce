import Mathlib.Data.List.Forall2
import Telemetry.Proofs.Expression.OperatorTree

/-!
# The stack machine computes operator trees

A stack that has come about by tokens holds the values of trees, and the postfix forms of these
trees, from the bottom up, are the tokens. So an evaluation that succeeds has read one tree, and one
that fails has stopped at the first token that cannot proceed, or has read several trees.

## Main definitions

- `Stack.Holds` — the values on a stack are those of trees
- `Token.Stuck` — a token cannot proceed on a stack
- `Token.FirstStuck` — tokens get no further than to one that is stuck

## Main statements

- `Stack.Holds.step`, `Stack.Holds.runAll` — what tokens leave of a stack
- `Token.runAll_eq_ok_iff`, `Token.runAll_eq_error_iff` — when tokens succeed, and how they fail
- `Expression.evaluate_operatorTree` — the value and the errors of an expression
-/

namespace Telemetry

variable {context : Context}

/-- The values on a stack are those of trees. -/
def Stack.Holds (context : Context) (ts : List OperatorTree) (stack : Stack) : Prop :=
  List.Forall₂ (fun t v => t.value? context = some v) ts stack

/-- A token cannot proceed on a stack, and the error for it. Of two operands that are no numbers it
    names the right one, which is on top. -/
inductive Token.Stuck (context : Context) : Token → Stack → EvalError → Prop
  | unbound {name : Text} {stack : Stack} (unbound : context name = none) :
      Stuck context (.variable name) stack (.unknownVariable name)
  | underflow {op : Operator} {stack : Stack} (short : stack.length < 2) :
      Stuck context (.operator op) stack (.stackUnderflow stack)
  | rightOperand {op : Operator} {right left : Value} {stack : Stack}
      (notNumber : right.number? = none) :
      Stuck context (.operator op) (right :: left :: stack) (.notANumber right)
  | leftOperand {op : Operator} {y : Float} {left : Value} {stack : Stack}
      (notNumber : left.number? = none) :
      Stuck context (.operator op) (.number y :: left :: stack) (.notANumber left)

/-- Tokens are the postfix forms of trees with values, and behind them one that is stuck on these
    values. -/
def Token.FirstStuck (context : Context) (tokens : List Token) (e : EvalError) : Prop :=
  ∃ ts stack token after, tokens = OperatorTree.spell ts ++ token :: after ∧
    Stack.Holds context ts stack ∧ token.Stuck context stack e

-- ════════════════════════════════════════════════════════════════════════
-- One token
-- ════════════════════════════════════════════════════════════════════════

/-- An operator that proceeds has found two numbers. -/
theorem Operator.run_eq_ok_iff {op : Operator} {stack stack' : Stack} :
    op.run stack = .ok stack' ↔
      ∃ x y rest, stack = .number y :: .number x :: rest ∧
        stack' = .number (op.apply x y) :: rest := by
  constructor
  · intro h
    match stack with
    | [] => cases h
    | [v] => cases h
    | .text t :: left :: rest => cases h
    | .number y :: .text t :: rest => cases h
    | .number y :: .number x :: rest => exact ⟨x, y, rest, rfl, (Except.ok.inj h).symm⟩
  · rintro ⟨x, y, rest, rfl, rfl⟩
    rfl

/-- A token fails exactly if it is stuck. -/
theorem Token.run_eq_error_iff {token : Token} {stack : Stack} {e : EvalError} :
    token.run context stack = .error e ↔ token.Stuck context stack e := by
  constructor
  · intro h
    cases token with
    | operator op =>
      change op.run stack = .error e at h
      match stack with
      | [] =>
        cases h
        exact .underflow (by simp)
      | [v] =>
        cases h
        exact .underflow (by simp)
      | .text t :: left :: rest =>
        cases h
        exact .rightOperand rfl
      | .number y :: .text t :: rest =>
        cases h
        exact .leftOperand rfl
      | .number y :: .number x :: rest => cases h
    | literal v => cases h
    | _ name =>
      rw [run] at h
      cases hname : context name with
      | none =>
        rw [hname] at h
        cases h
        exact .unbound hname
      | some v =>
        rw [hname] at h
        cases h
  · intro h
    cases h with
    | unbound hname => simp only [run, hname]
    | @underflow op stack hshort =>
      match stack with
      | [] => rfl
      | [v] => rfl
    | @rightOperand op right left stack hright =>
      cases right with
      | text t => rfl
      | number y => cases hright
    | @leftOperand op y left stack hleft =>
      cases left with
      | text t => rfl
      | number x => cases hleft

/-- After a token that proceeds the stack holds one tree more, or has its two topmost trees put
    together, and the token is written behind the trees. -/
theorem Stack.Holds.step {ts : List OperatorTree} {stack stack' : Stack} {token : Token}
    (h : Stack.Holds context ts stack) (hrun : token.run context stack = .ok stack') :
    ∃ ts', OperatorTree.spell ts' = OperatorTree.spell ts ++ [token] ∧
      Stack.Holds context ts' stack' := by
  cases token with
  | operator op =>
    obtain ⟨x, y, rest, rfl, rfl⟩ := Operator.run_eq_ok_iff.mp hrun
    obtain ⟨right, ts₁, hright, hbelow, rfl⟩ := List.forall₂_cons_right_iff.mp h
    obtain ⟨left, ts₂, hleft, hrest, rfl⟩ := List.forall₂_cons_right_iff.mp hbelow
    have hvalue : (OperatorTree.node op left right).value? context =
        some (.number (op.apply x y)) :=
      OperatorTree.value?_node_eq_some_iff.mpr ⟨x, y, hleft, hright, rfl⟩
    refine ⟨.node op left right :: ts₂, ?_, .cons hvalue hrest⟩
    simp only [OperatorTree.spell, OperatorTree.tokens, List.append_assoc]
  | literal v =>
    cases hrun
    exact ⟨.literal v :: ts, rfl, .cons rfl h⟩
  | _ name =>
    rw [Token.run] at hrun
    cases hname : context name with
    | none =>
      rw [hname] at hrun
      cases hrun
    | some v =>
      rw [hname] at hrun
      cases hrun
      exact ⟨.reference name :: ts, rfl, .cons hname h⟩

-- ════════════════════════════════════════════════════════════════════════
-- Many tokens
-- ════════════════════════════════════════════════════════════════════════

theorem Token.runAll_append {stack stack' : Stack} {before : List Token}
    (h : runAll context stack before = .ok stack') (after : List Token) :
    runAll context stack (before ++ after) = runAll context stack' after := by
  induction before generalizing stack with
  | nil =>
    cases h
    rfl
  | cons token before ih =>
    rw [runAll] at h
    rw [List.cons_append, runAll]
    cases hrun : token.run context stack with
    | error e =>
      rw [hrun] at h
      cases h
    | ok stack₁ =>
      rw [hrun] at h
      exact ih h

/-- A run of tokens fails exactly with the error of the first one that fails. -/
theorem Token.runAll_eq_error_iff_exists {stack : Stack} {tokens : List Token} {e : EvalError} :
    runAll context stack tokens = .error e ↔
      ∃ before token after stack', tokens = before ++ token :: after ∧
        runAll context stack before = .ok stack' ∧ token.run context stack' = .error e := by
  constructor
  · intro h
    induction tokens generalizing stack with
    | nil => cases h
    | cons token tokens ih =>
      rw [runAll] at h
      cases hrun : token.run context stack with
      | error e' =>
        rw [hrun] at h
        cases h
        exact ⟨[], token, tokens, stack, rfl, rfl, hrun⟩
      | ok stack₁ =>
        rw [hrun] at h
        obtain ⟨before, token', after, stack', rfl, hbefore, herror⟩ := ih h
        refine ⟨token :: before, token', after, stack', rfl, ?_, herror⟩
        rw [runAll, hrun]
        exact hbefore
  · rintro ⟨before, token, after, stack', rfl, hbefore, herror⟩
    rw [runAll_append hbefore, runAll, herror]

/-- The tokens that have been run are the postfix forms of the trees that the stack holds. -/
theorem Stack.Holds.runAll {ts : List OperatorTree} {stack stack' : Stack} {tokens : List Token}
    (h : Stack.Holds context ts stack) (hrun : Token.runAll context stack tokens = .ok stack') :
    ∃ ts', OperatorTree.spell ts' = OperatorTree.spell ts ++ tokens ∧
      Stack.Holds context ts' stack' := by
  induction tokens generalizing ts stack with
  | nil =>
    cases hrun
    exact ⟨ts, (List.append_nil _).symm, h⟩
  | cons token tokens ih =>
    rw [Token.runAll] at hrun
    cases hfirst : token.run context stack with
    | error e =>
      rw [hfirst] at hrun
      cases hrun
    | ok stack₁ =>
      rw [hfirst] at hrun
      obtain ⟨ts₁, hspell₁, h₁⟩ := h.step hfirst
      obtain ⟨ts', hspell, h'⟩ := ih h₁ hrun
      refine ⟨ts', ?_, h'⟩
      rw [hspell, hspell₁, List.append_assoc, List.singleton_append]

/-- The postfix form of a tree leaves its value on the stack, whatever lies below. -/
theorem Token.runAll_tokens {t : OperatorTree} {v : Value} (h : t.value? context = some v)
    (stack : Stack) : runAll context stack t.tokens = .ok (v :: stack) := by
  induction t generalizing v stack with
  | reference name =>
    rw [OperatorTree.value?] at h
    simp only [OperatorTree.tokens, runAll, run, h]
  | literal v' =>
    cases h
    rfl
  | node op left right ihl ihr =>
    obtain ⟨x, y, hleft, hright, rfl⟩ := OperatorTree.value?_node_eq_some_iff.mp h
    have hoperands : runAll context stack (left.tokens ++ right.tokens) =
        .ok (.number y :: .number x :: stack) := by
      rw [runAll_append (ihl hleft stack), ihr hright]
    rw [OperatorTree.tokens, runAll_append hoperands]
    rfl

theorem Token.runAll_spell {ts : List OperatorTree} {stack : Stack}
    (h : Stack.Holds context ts stack) : runAll context [] (OperatorTree.spell ts) = .ok stack := by
  induction h with
  | nil => rfl
  | cons hvalue _ ih => rw [OperatorTree.spell, runAll_append ih, runAll_tokens hvalue]

/-- Tokens succeed exactly if they are the postfix forms of trees with values, which they leave. -/
theorem Token.runAll_eq_ok_iff {tokens : List Token} {stack : Stack} :
    runAll context [] tokens = .ok stack ↔
      ∃ ts, tokens = OperatorTree.spell ts ∧ Stack.Holds context ts stack := by
  constructor
  · intro h
    obtain ⟨ts, hspell, hholds⟩ := Stack.Holds.runAll .nil h
    exact ⟨ts, hspell.symm, hholds⟩
  · rintro ⟨ts, rfl, hholds⟩
    exact runAll_spell hholds

/-- Tokens fail exactly with the error of the first one that is stuck. -/
theorem Token.runAll_eq_error_iff {tokens : List Token} {e : EvalError} :
    runAll context [] tokens = .error e ↔ FirstStuck context tokens e := by
  rw [runAll_eq_error_iff_exists]
  constructor
  · rintro ⟨before, token, after, stack, rfl, hbefore, herror⟩
    obtain ⟨ts, rfl, hholds⟩ := runAll_eq_ok_iff.mp hbefore
    exact ⟨ts, stack, token, after, rfl, hholds, run_eq_error_iff.mp herror⟩
  · rintro ⟨ts, stack, token, after, rfl, hholds, hstuck⟩
    exact ⟨_, token, after, stack, rfl, runAll_spell hholds, run_eq_error_iff.mpr hstuck⟩

-- ════════════════════════════════════════════════════════════════════════
-- Expressions
-- ════════════════════════════════════════════════════════════════════════

namespace Expression

theorem tokens_parse_ne_nil (source : Text) : (parse source).tokens ≠ [] := by
  intro h
  have hpieces : Text.splitChar ',' source = [] := List.map_eq_nil_iff.mp h
  exact Text.splitWhere_ne_nil _ _ hpieces

theorem evaluate_eq_ok_iff {e : Expression} {v : Value} :
    e.evaluate context = .ok v ↔ Token.runAll context [] e.tokens = .ok [v] := by
  rw [evaluate]
  cases hrun : Token.runAll context [] e.tokens with
  | error err => simp
  | ok stack =>
    match stack with
    | [] => simp
    | [w] => simp
    | w :: w' :: stack => simp

theorem evaluate_eq_error_iff {e : Expression} {err : EvalError} :
    e.evaluate context = .error err ↔
      Token.runAll context [] e.tokens = .error err ∨
        ∃ stack, Token.runAll context [] e.tokens = .ok stack ∧ stack.length ≠ 1 ∧
          err = .residualStack stack := by
  rw [evaluate]
  cases hrun : Token.runAll context [] e.tokens with
  | error err' => simp
  | ok stack =>
    match stack with
    | [] => simp [eq_comm]
    | [w] => simp
    | w :: w' :: stack => simp [eq_comm]

/-- The value of an expression is that of the tree of which its tokens are the postfix form. -/
theorem evaluate_eq_ok_iff_tree {e : Expression} {v : Value} :
    e.evaluate context = .ok v ↔
      ∃ t : OperatorTree, e.tokens = t.tokens ∧ t.value? context = some v := by
  rw [evaluate_eq_ok_iff, Token.runAll_eq_ok_iff]
  constructor
  · rintro ⟨ts, htokens, hholds⟩
    obtain ⟨t, rest, hvalue, hrest, rfl⟩ := List.forall₂_cons_right_iff.mp hholds
    obtain rfl := List.forall₂_nil_right_iff.mp hrest
    exact ⟨t, htokens, hvalue⟩
  · rintro ⟨t, htokens, hvalue⟩
    exact ⟨[t], htokens, .cons hvalue .nil⟩

/-- An expression has a token at least, so what it leaves if it does not leave one value is two
    values or more. -/
theorem evaluate_parse_eq_error_iff {source : Text} {e : EvalError} :
    (parse source).evaluate context = .error e ↔
      Token.FirstStuck context (parse source).tokens e ∨
        ∃ ts stack, (parse source).tokens = OperatorTree.spell ts ∧
          Stack.Holds context ts stack ∧ 2 ≤ stack.length ∧ e = .residualStack stack := by
  rw [evaluate_eq_error_iff, Token.runAll_eq_error_iff]
  constructor
  · rintro (hstuck | ⟨stack, hrun, hlength, rfl⟩)
    · exact .inl hstuck
    · obtain ⟨ts, htokens, hholds⟩ := Token.runAll_eq_ok_iff.mp hrun
      have hne : ts ≠ [] := by
        rintro rfl
        exact tokens_parse_ne_nil source htokens
      have hpos : 0 < ts.length := List.length_pos_iff.mpr hne
      have hlengths : ts.length = stack.length := hholds.length_eq
      exact .inr ⟨ts, stack, htokens, hholds, by omega, rfl⟩
  · rintro (hstuck | ⟨ts, stack, htokens, hholds, hlength, rfl⟩)
    · exact .inl hstuck
    · exact .inr ⟨stack, Token.runAll_eq_ok_iff.mpr ⟨ts, htokens, hholds⟩, by omega, rfl⟩

/-- A token that is stuck does not report a stack that is left over. -/
theorem not_firstStuck_residualStack {tokens : List Token} {stack : Stack} :
    ¬ Token.FirstStuck context tokens (.residualStack stack) := by
  rintro ⟨ts, stack', token, after, -, -, hstuck⟩
  cases hstuck

/-- The evaluation of an expression succeeds exactly with the value of the tree of which its tokens
    are the postfix form, if all variables of the tree are bound and all operands numbers. There is
    one such tree at most. Otherwise the error is the one of the first token that is stuck on the
    values of the trees before it, or the tokens are the postfix forms of two trees or more. -/
theorem evaluate_operatorTree (source : Text) (context : Context) :
    (∀ v, (parse source).evaluate context = .ok v ↔
      ∃ t : OperatorTree, (parse source).tokens = t.tokens ∧
        (∀ name ∈ t.names, (context name).isSome) ∧
        (∀ operand ∈ t.operands, ∃ x, operand.value? context = some (.number x)) ∧
        t.value? context = some v) ∧
    Function.Injective OperatorTree.tokens ∧
    (∀ e, (parse source).evaluate context = .error e ↔
      Token.FirstStuck context (parse source).tokens e ∨
        ∃ ts stack, (parse source).tokens = OperatorTree.spell ts ∧
          Stack.Holds context ts stack ∧ 2 ≤ stack.length ∧ e = .residualStack stack) ∧
    ∀ stack, (parse source).evaluate context = .error (.residualStack stack) →
      2 ≤ stack.length := by
  refine ⟨fun v => ?_, OperatorTree.tokens_injective, fun e => evaluate_parse_eq_error_iff,
    fun stack h => ?_⟩
  · rw [evaluate_eq_ok_iff_tree]
    constructor
    · rintro ⟨t, htokens, hvalue⟩
      have hsome : (t.value? context).isSome := by rw [hvalue]; rfl
      obtain ⟨hvariables, hoperands⟩ := OperatorTree.isSome_value?_iff.mp hsome
      exact ⟨t, htokens, hvariables, hoperands, hvalue⟩
    · rintro ⟨t, htokens, -, -, hvalue⟩
      exact ⟨t, htokens, hvalue⟩
  · obtain hstuck | ⟨ts, stack', -, -, hlength, he⟩ := evaluate_parse_eq_error_iff.mp h
    · exact absurd hstuck not_firstStuck_residualStack
    · cases he
      exact hlength

/-- Five and two: their difference, and behind it the two again, which leaves two values. -/
theorem evaluate_operatorTree_difference :
    let context : Context := fun name => some (.number (if name = ['a'] then 5 else 2))
    (parse "\x7ba\x7d,\x7bb\x7d,:sub".toList).evaluate context = .ok (.number 3) ∧
      (parse "\x7ba\x7d,\x7bb\x7d,:sub,\x7bb\x7d".toList).evaluate context =
        .error (.residualStack [.number 2, .number 3]) ∧
      2 ≤ [Value.number 2, .number 3].length := by
  intro context
  let two : OperatorTree := .reference ['b']
  let difference : OperatorTree := .node .sub (.reference ['a']) two
  have hvalue : difference.value? context = some (.number 3) := by decide
  have hnumber : ∀ operand ∈ difference.operands, ∃ x, operand.value? context = some (.number x) :=
    List.forall_mem_cons.mpr ⟨⟨5, rfl⟩, List.forall_mem_singleton.mpr ⟨2, rfl⟩⟩
  have hleft : (parse "\x7ba\x7d,\x7bb\x7d,:sub,\x7bb\x7d".toList).evaluate context =
      .error (.residualStack [.number 2, .number 3]) :=
    ((evaluate_operatorTree _ context).2.2.1 _).mpr
      (.inr ⟨[two, difference], _, rfl, .cons rfl (.cons hvalue .nil), by decide, rfl⟩)
  refine ⟨?_, hleft, (evaluate_operatorTree _ context).2.2.2 _ hleft⟩
  exact ((evaluate_operatorTree _ context).1 _).mpr
    ⟨difference, rfl, fun _ _ => rfl, hnumber, hvalue⟩

end Expression

end Telemetry
