import Mathlib.Logic.Function.Defs
import Telemetry.Expression.Evaluation

/-!
# Operator trees

The tokens of an expression are meant as the postfix form of a tree, in which every operator has a
left and a right operand. Here is the value of a tree, computed without a stack and with nothing but
the arithmetic of doubles.

## Main definitions

- `OperatorTree` — operators with two operands, over variables and literals
- `OperatorTree.tokens`, `OperatorTree.spell` — the postfix form of a tree, and of several
- `OperatorTree.value?` — the value of a tree
- `OperatorTree.names`, `OperatorTree.operands` — what has to be bound, and to be a number

## Main statements

- `OperatorTree.tokens_injective` — a postfix form has one reading
- `OperatorTree.value?_node` — the operators of expressions are those of arithmetic
- `OperatorTree.isSome_value?_iff` — which trees have a value
-/

namespace Telemetry

/-- An expression as a tree. -/
inductive OperatorTree
  | reference (name : Text)
  | literal (value : Value)
  | node (op : Operator) (left right : OperatorTree)

namespace OperatorTree

-- ════════════════════════════════════════════════════════════════════════
-- Postfix forms
-- ════════════════════════════════════════════════════════════════════════

/-- The postfix form of a tree: an operator stands behind its operands, the left one first. -/
def tokens : OperatorTree → List Token
  | .reference name => [.variable name]
  | .literal v => [.literal v]
  | .node op left right => left.tokens ++ right.tokens ++ [.operator op]

/-- The postfix forms of the trees of a stack. The topmost tree is the last to be written. -/
def spell : List OperatorTree → List Token
  | [] => []
  | t :: ts => spell ts ++ t.tokens

/-- No postfix form is a proper end of another one. -/
theorem eq_of_append_tokens_eq {t t' : OperatorTree} {before before' : List Token}
    (h : before ++ t.tokens = before' ++ t'.tokens) : before = before' ∧ t = t' := by
  induction t generalizing t' before before' with
  | reference name =>
    cases t' <;> simp_all [tokens, ← List.append_assoc]
  | literal v =>
    cases t' <;> simp_all [tokens, ← List.append_assoc]
  | node op left right ihl ihr =>
    cases t' with
    | node op' left' right' =>
      -- The right operands stand at the ends, and before them the left ones.
      simp only [tokens, ← List.append_assoc] at h
      obtain ⟨hoperands, hop⟩ := List.append_inj' h rfl
      obtain ⟨hleft, rfl⟩ := ihr hoperands
      obtain ⟨rfl, rfl⟩ := ihl hleft
      obtain rfl : op = op' := by simpa using hop
      exact ⟨rfl, rfl⟩
    | _ => simp [tokens, ← List.append_assoc] at h

/-- A postfix form has one reading. -/
theorem tokens_injective : Function.Injective tokens := by
  intro t t' h
  have happend : [] ++ t.tokens = [] ++ t'.tokens := by rw [h]
  exact (eq_of_append_tokens_eq happend).2

-- ════════════════════════════════════════════════════════════════════════
-- Values
-- ════════════════════════════════════════════════════════════════════════

/-- What arithmetic makes of the values of a left and a right operand, if both are numbers. -/
def onNumbers (f : Float → Float → Float) : Option Value → Option Value → Option Value
  | some (.number x), some (.number y) => some (.number (f x y))
  | _, _ => none

/-- The value of a tree. That of an operator is the sum, the difference, the product or the quotient
    of its left and its right operand. An unbound variable, or an operand that is not a number,
    leaves the tree without a value. -/
def value? (context : Context) : OperatorTree → Option Value
  | .reference name => context name
  | .literal v => some v
  | .node .add left right => onNumbers (· + ·) (left.value? context) (right.value? context)
  | .node .sub left right => onNumbers (· - ·) (left.value? context) (right.value? context)
  | .node .mul left right => onNumbers (· * ·) (left.value? context) (right.value? context)
  | .node .div left right => onNumbers (· / ·) (left.value? context) (right.value? context)

/-- The names of the variables in a tree. -/
def names : OperatorTree → List Text
  | .reference name => [name]
  | .literal _ => []
  | .node _ left right => left.names ++ right.names

/-- The operands of all the operators in a tree. -/
def operands : OperatorTree → List OperatorTree
  | .reference _ => []
  | .literal _ => []
  | .node _ left right => left :: right :: (left.operands ++ right.operands)

variable {context : Context}

theorem onNumbers_eq_some_iff {f : Float → Float → Float} {left right : Option Value} {v : Value} :
    onNumbers f left right = some v ↔
      ∃ x y, left = some (.number x) ∧ right = some (.number y) ∧ v = .number (f x y) := by
  constructor
  · intro h
    unfold onNumbers at h
    split at h
    · rename_i x y
      exact ⟨x, y, rfl, rfl, (Option.some.inj h).symm⟩
    · cases h
  · rintro ⟨x, y, rfl, rfl, rfl⟩
    rfl

/-- The operators are those of arithmetic, with their operands in order. -/
theorem value?_node (op : Operator) (left right : OperatorTree) :
    (node op left right).value? context =
      onNumbers op.apply (left.value? context) (right.value? context) := by
  cases op <;> rfl

theorem value?_node_eq_some_iff {op : Operator} {left right : OperatorTree} {v : Value} :
    (node op left right).value? context = some v ↔
      ∃ x y, left.value? context = some (.number x) ∧ right.value? context = some (.number y) ∧
        v = .number (op.apply x y) := by
  rw [value?_node, onNumbers_eq_some_iff]

/-- A tree has a value exactly if all its variables are bound and all operands of its operators have
    numbers as values. -/
theorem isSome_value?_iff {t : OperatorTree} :
    (t.value? context).isSome ↔
      (∀ name ∈ t.names, (context name).isSome) ∧
        ∀ operand ∈ t.operands, ∃ x, operand.value? context = some (.number x) := by
  induction t with
  | reference name => simp [value?, names, operands]
  | literal v => simp [value?, names, operands]
  | node op left right ihl ihr =>
    constructor
    · intro h
      obtain ⟨v, hv⟩ := Option.isSome_iff_exists.mp h
      obtain ⟨x, y, hx, hy, -⟩ := value?_node_eq_some_iff.mp hv
      obtain ⟨hvarsl, hopsl⟩ := ihl.mp (by rw [hx]; rfl)
      obtain ⟨hvarsr, hopsr⟩ := ihr.mp (by rw [hy]; rfl)
      constructor
      · intro name hname
        rcases List.mem_append.mp hname with hname | hname
        · exact hvarsl name hname
        · exact hvarsr name hname
      · intro operand hoperand
        simp only [operands, List.mem_cons, List.mem_append] at hoperand
        rcases hoperand with rfl | rfl | hoperand | hoperand
        · exact ⟨x, hx⟩
        · exact ⟨y, hy⟩
        · exact hopsl operand hoperand
        · exact hopsr operand hoperand
    · rintro ⟨-, hoperands⟩
      obtain ⟨x, hx⟩ := hoperands left (by simp [operands])
      obtain ⟨y, hy⟩ := hoperands right (by simp [operands])
      rw [value?_node_eq_some_iff.mpr ⟨x, y, hx, hy, rfl⟩]
      rfl

end OperatorTree

end Telemetry
