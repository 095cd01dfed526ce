import Telemetry.Proofs.Collection.Layers
import Telemetry.Proofs.Expression.StackMachine
import Telemetry.Proofs.Basic
import Telemetry.Proofs.Text.Splitting
import Telemetry.Proofs.Value.Canonical

/-!
# Spelled expressions

Tokens are written with commas between them and blanks around each: operators by their names, names
of variables between braces, and numbers in their canonical form. Such a text is the text of just
these tokens, so every operator tree over variables and numbers can be written down, and is
evaluated to its value.

A name between braces may hold anything but a comma, also braces, colons, blanks and the names of
operators, since operators are compared as a whole and braces are taken off at the ends only.

## Main definitions

- `Token.spelling` — how a token is written
- `Token.Spellable` — the tokens that can be read back
- `Token.SpelledBy` — a text is a token with blanks around it

## Main statements

- `Token.ofSpelling?_eq_some_iff` — an operator is read where its name is written
- `Token.parse_of_spelledBy` — a spelled token is read back
- `Expression.tokens_parse_join` — so are several with commas between them
- `OperatorTree.exists_number` — the value of a tree over numbers
- `Expression.parse_spelled` — all of this, and the evaluation of spelled trees
-/

namespace Telemetry

open Decimal (IsNumeric IsNaNBits)

-- ════════════════════════════════════════════════════════════════════════
-- Tokens
-- ════════════════════════════════════════════════════════════════════════

namespace Token

/-- How a token is written: an operator by its name, the name of a variable between braces, and a
    value in its canonical form. -/
def spelling : Token → Text
  | operator .add => ":add".toList
  | operator .sub => ":sub".toList
  | operator .mul => ":mul".toList
  | operator .div => ":div".toList
  | .variable name => '{' :: name ++ ['}']
  | literal v => v.canonical

/-- The tokens that their spelling gives back: operators, variables with a name that is not empty
    and has no comma in it, and numbers. -/
inductive Spellable : Token → Prop
  | operator (op : Operator) : Spellable (.operator op)
  | reference {name : Text} (ne : name ≠ []) (free : ',' ∉ name) : Spellable (.variable name)
  | number (x : Float) : Spellable (.literal (.number x))

/-- A text is the spelling of a token with blanks around it. -/
inductive SpelledBy (token : Token) : Text → Prop
  | mk (before after : Text) (spellable : token.Spellable) (hbefore : ∀ c ∈ before, Text.isBlank c)
      (hafter : ∀ c ∈ after, Text.isBlank c) : SpelledBy token (before ++ token.spelling ++ after)

variable {token : Token} {t : Text}

theorem isBlank_of_isNumeric {c : Char} (h : IsNumeric c) : Text.isBlank c = false := by
  rcases h with hdigit | hlisted
  · rw [Char.isDigit, Bool.and_eq_true, decide_eq_true_eq, decide_eq_true_eq] at hdigit
    have hlow : 48 ≤ c.toNat := UInt32.le_iff_toNat_le.mp hdigit.1
    have hhigh : c.toNat ≤ 57 := UInt32.le_iff_toNat_le.mp hdigit.2
    rw [Text.isBlank, List.any_eq_false]
    intro (lo, hi) hrange
    simp only [Text.blankRanges, List.mem_cons, Prod.mk.injEq, List.not_mem_nil, or_false] at hrange
    simp only [Bool.and_eq_true, decide_eq_true_eq]
    omega
  · simp only [List.mem_cons, List.not_mem_nil, or_false] at hlisted
    obtain rfl | rfl | rfl | rfl | rfl | rfl | rfl | rfl | rfl := hlisted <;> decide

theorem isNumeric_of_mem_spelling {x : Float} {c : Char}
    (h : c ∈ (literal (.number x)).spelling) : IsNumeric c :=
  Decimal.Layout.isNumeric_of_mem_write h

/-- There are no blanks at the ends of a spelling. -/
theorem Spellable.trim_spelling (h : token.Spellable) : token.spelling.trim = token.spelling := by
  cases h with
  | operator op => cases op <;> rfl
  | @reference name ne free =>
    have hlast : (Token.variable name).spelling.getLast? = some '}' := List.getLast?_concat
    refine Text.strip_eq_self_iff.mpr ⟨fun c hc => ?_, fun c hc => ?_⟩
    · obtain rfl : '{' = c := Option.some.inj hc
      decide
    · obtain rfl : '}' = c := Option.some.inj (hlast.symm.trans hc)
      decide
  | number x =>
    have hnone : ∀ c ∈ (literal (.number x)).spelling, Text.isBlank c = false := fun c hc =>
      isBlank_of_isNumeric (isNumeric_of_mem_spelling hc)
    exact Text.strip_eq_self_iff.mpr ⟨fun c hc => hnone c (List.mem_of_mem_head? hc),
      fun c hc => hnone c (List.mem_of_getLast? hc)⟩

theorem spelling_operator (op : Operator) : (operator op).spelling = op.spelling := by
  cases op <;> rfl

/-- The operator that a text is taken for is the one that is written so. -/
theorem ofSpelling?_eq_some_iff {op : Operator} :
    Operator.ofSpelling? t = some op ↔ t = (operator op).spelling := by
  constructor
  · intro h
    have hfound : (op.spelling == t) = true :=
      List.find?_some (p := fun op => Operator.spelling op == t) h
    rw [spelling_operator, beq_iff_eq.mp hfound]
  · rintro rfl
    cases op <;> rfl

/-- A text that does not start with a colon is no operator. -/
theorem ofSpelling?_of_head? (h : t.head? ≠ some ':') : Operator.ofSpelling? t = none := by
  rw [Option.eq_none_iff_forall_ne_some]
  intro op hop
  rw [ofSpelling?_eq_some_iff] at hop
  subst hop
  cases op <;> exact h rfl

/-- A spelling is read as the token itself. -/
theorem Spellable.parse_spelling (h : token.Spellable) : Token.parse token.spelling = token := by
  rw [Token.parse, h.trim_spelling]
  cases h with
  | operator op =>
    have hoperator : Operator.ofSpelling? (Token.operator op).spelling = some op :=
      ofSpelling?_eq_some_iff.mpr rfl
    simp only [hoperator]
  | @reference name ne free =>
    have hoperator : Operator.ofSpelling? (Token.variable name).spelling = none :=
      ofSpelling?_of_head? (by simp [spelling])
    have hinside : (Token.variable name).spelling.braced? = some name :=
      Text.braced?_eq_some_iff.mpr rfl
    obtain ⟨c, rest, rfl⟩ := List.exists_cons_of_ne_nil ne
    simp only [hoperator, hinside]
  | number x =>
    have hhead : ∀ c, (literal (.number x)).spelling.head? = some c → IsNumeric c := fun c hc =>
      isNumeric_of_mem_spelling (List.mem_of_mem_head? hc)
    have hoperator : Operator.ofSpelling? (literal (.number x)).spelling = none :=
      ofSpelling?_of_head? fun hcolon => absurd (hhead _ hcolon) (by simp [IsNumeric])
    have hinside : (literal (.number x)).spelling.braced? = none := by
      rw [Option.eq_none_iff_forall_ne_some]
      intro inside hsome
      have hopen := hhead '{' (by rw [Text.braced?_eq_some_iff.mp hsome]; rfl)
      exact absurd hopen (by simp [IsNumeric])
    have hvalue : Value.parse (literal (.number x)).spelling = .number x :=
      Value.parse_canonical_number x
    simp only [hoperator, hinside, hvalue]

/-- A spelled token is read back, whatever blanks stand around it. -/
theorem parse_of_spelledBy (h : token.SpelledBy t) : Token.parse t = token := by
  obtain ⟨before, after, spellable, hbefore, hafter⟩ := h
  have htrim : ∀ before after : Text, (∀ c ∈ before, Text.isBlank c) →
      (∀ c ∈ after, Text.isBlank c) →
      (before ++ token.spelling ++ after).trim = token.spelling.trim :=
    fun _ _ => Text.strip_padded
  rw [Token.parse, htrim _ _ hbefore hafter, ← Token.parse, spellable.parse_spelling]

/-- No comma stands in a spelled token. -/
theorem SpelledBy.comma_not_mem (h : token.SpelledBy t) : ',' ∉ t := by
  obtain ⟨before, after, spellable, hbefore, hafter⟩ := h
  have hblank : ¬ Text.isBlank ',' := by decide
  have hspelling : ',' ∉ token.spelling := by
    cases spellable with
    | operator op => cases op <;> decide
    | reference ne free => simp [spelling, free]
    | number x =>
      intro hcomma
      exact absurd (isNumeric_of_mem_spelling hcomma) (by simp [IsNumeric])
  simp only [List.mem_append, not_or]
  exact ⟨⟨fun h => hblank (hbefore _ h), hspelling⟩, fun h => hblank (hafter _ h)⟩

end Token

-- ════════════════════════════════════════════════════════════════════════
-- Trees
-- ════════════════════════════════════════════════════════════════════════

namespace OperatorTree

/-- A tree over numbers and variables that are bound to numbers has a number as its value. -/
theorem exists_number {context : Context} {t : OperatorTree}
    (hleaves : ∀ token ∈ t.tokens, token.Spellable)
    (hbound : ∀ name ∈ t.names, ∃ x, context name = some (.number x)) :
    ∃ y, t.value? context = some (.number y) := by
  induction t with
  | reference name => exact hbound name List.mem_cons_self
  | literal v =>
    cases hleaves _ List.mem_cons_self with
    | number x => exact ⟨x, rfl⟩
  | node op left right ihl ihr =>
    simp only [tokens, names, List.forall_mem_append] at hleaves hbound
    obtain ⟨x, hx⟩ := ihl hleaves.1.1 hbound.1
    obtain ⟨y, hy⟩ := ihr hleaves.1.2 hbound.2
    exact ⟨op.apply x y, value?_node_eq_some_iff.mpr ⟨x, y, hx, hy, rfl⟩⟩

theorem tokens_ne_nil (t : OperatorTree) : t.tokens ≠ [] := by
  cases t <;> simp [tokens]

end OperatorTree

-- ════════════════════════════════════════════════════════════════════════
-- Expressions
-- ════════════════════════════════════════════════════════════════════════

namespace Expression

variable {tokens : List Token} {texts : List Text}

/-- Spelled tokens with commas between them are the tokens of their text. -/
theorem tokens_parse_join (ne : tokens ≠ []) (h : List.Forall₂ Token.SpelledBy tokens texts) :
    (parse (Text.join [','] texts)).tokens = tokens := by
  have hne : texts ≠ [] := by
    rintro rfl
    exact ne (List.forall₂_nil_right_iff.mp h)
  have hfree : ∀ t ∈ texts, ',' ∉ t := by
    clear ne hne
    induction h with
    | nil => nofun
    | cons htoken _ ih => exact List.forall_mem_cons.mpr ⟨htoken.comma_not_mem, ih⟩
  rw [parse, Text.splitChar_join hfree hne]
  clear ne hne hfree
  induction h with
  | nil => rfl
  | cons htoken _ ih => exact congrArg₂ _ (Token.parse_of_spelledBy htoken) ih

/-- A spelled tree is evaluated to its value. -/
theorem evaluate_parse_join {context : Context} {t : OperatorTree} {v : Value}
    (h : List.Forall₂ Token.SpelledBy t.tokens texts) (hv : t.value? context = some v) :
    (parse (Text.join [','] texts)).evaluate context = .ok v :=
  evaluate_eq_ok_iff_tree.mpr ⟨t, tokens_parse_join t.tokens_ne_nil h, hv⟩

/-- A text that spells tokens between commas is the text of these tokens, and is shown as it stands;
    a number in it is read with all its bits, and what is not a number as that. So an operator tree
    over numbers and variables that are bound to numbers has a value, to which its text is
    evaluated, and any field of a record can be referenced if its name is not empty and has no comma
    in it. -/
theorem parse_spelled :
    (∀ tokens texts, tokens ≠ [] → List.Forall₂ Token.SpelledBy tokens texts →
      (parse (Text.join [','] texts)).tokens = tokens ∧
        (parse (Text.join [','] texts)).source = Text.join [','] texts) ∧
    (∀ (bits : UInt64) text, (Token.literal (.number (Float.ofBits bits))).SpelledBy text →
      ∃ x, Token.parse text = .literal (.number x) ∧
        (¬ IsNaNBits bits → x.toBits = bits) ∧ (IsNaNBits bits → IsNaNBits x.toBits)) ∧
    (∀ (t : OperatorTree) texts context, List.Forall₂ Token.SpelledBy t.tokens texts →
      (∀ name ∈ t.names, ∃ x, context name = some (.number x)) →
      ∃ y, t.value? context = some (.number y) ∧
        (parse (Text.join [','] texts)).evaluate context = .ok (.number y)) ∧
    ∀ (r defaults : Record) name v, r.get? name = some v → name ≠ [] → ',' ∉ name →
      (parse ('{' :: name ++ ['}'])).evaluate (r.context defaults) = .ok v := by
  refine ⟨fun tokens texts ne h => ⟨tokens_parse_join ne h, rfl⟩, ?_, ?_, ?_⟩
  · intro bits text h
    exact ⟨_, Token.parse_of_spelledBy h, Decimal.toBits_ofBits, Decimal.isNaNBits_toBits_ofBits⟩
  · intro t texts context h hbound
    have hleaves : ∀ token ∈ t.tokens, token.Spellable := by
      intro token htoken
      obtain ⟨text, -, ⟨_, _, spellable, -, -⟩⟩ := exists_mem_of_forall₂ h.flip htoken
      exact spellable
    obtain ⟨y, hy⟩ := t.exists_number hleaves hbound
    exact ⟨y, hy, evaluate_parse_join h hy⟩
  · intro r defaults name v hv ne free
    have hname : (Token.variable name).SpelledBy ([] ++ ('{' :: name ++ ['}']) ++ []) :=
      .mk [] [] (.reference ne free) nofun nofun
    rw [List.nil_append, List.append_nil] at hname
    have hspelled : List.Forall₂ Token.SpelledBy (OperatorTree.reference name).tokens
        ['{' :: name ++ ['}']] := .cons hname .nil
    have hvalue : (OperatorTree.reference name).value? (r.context defaults) = some v := by
      rw [OperatorTree.value?, Record.context_eq_fieldOrDefault, Record.fieldOrDefault_of_get? hv]
    have heval := evaluate_parse_join hspelled hvalue
    rwa [Text.join_singleton] at heval

/-- A field with braces, a colon, a blank and the name of an operator in its name, from which two is
    taken, with blanks of several kinds: of five three is left. Then minus zero, bits that stand for
    no number, and the same field with a text. -/
theorem parse_spelled_braces :
    let name : Text := "a\x7db:add \x7b".toList
    let t : OperatorTree := .node .sub (.reference name) (.literal (.number 2))
    let texts : List Text := ["\u3000\x7ba\x7db:add \x7b\x7d ".toList, "2".toList, ":sub\n".toList]
    let r : Record := .ofList [(name, .text ['x'])]
    ((parse (Text.join [','] texts)).tokens = t.tokens ∧
      (parse (Text.join [','] texts)).source = Text.join [','] texts) ∧
    (t.value? (fun _ => some (.number 5)) = some (.number 3) ∧
      (parse (Text.join [','] texts)).evaluate (fun _ => some (.number 5)) = .ok (.number 3)) ∧
    (∃ x, Token.parse " -0".toList = .literal (.number x) ∧ x.toBits = 0x8000000000000000) ∧
    (∃ x, Token.parse "NaN".toList = .literal (.number x) ∧ IsNaNBits x.toBits) ∧
    (parse "\x7ba\x7db:add \x7b\x7d".toList).evaluate (r.context .empty) = .ok (.text ['x']) := by
  have hminus : (Token.literal (.number (.ofBits 0x8000000000000000))).spelling = "-0".toList := by
    rfl
  have htwo : (Token.literal (.number 2)).spelling = "2".toList := by
    decide +kernel
  intro name t texts r
  obtain ⟨htokens, hbits, hvalue, hfield⟩ := parse_spelled
  have hblank : ∀ c, Text.isBlank c → ∀ d ∈ [c], Text.isBlank d := fun c hc =>
    List.forall_mem_singleton.mpr hc
  have hname : (Token.variable name).SpelledBy "\u3000\x7ba\x7db:add \x7b\x7d ".toList :=
    .mk ['\u3000'] [' '] (.reference (by decide) (by decide)) (hblank _ rfl) (hblank _ rfl)
  have hnumber : (Token.literal (.number 2)).SpelledBy ([] ++ "2".toList ++ []) := by
    rw [← htwo]
    exact .mk [] [] (.number 2) nofun nofun
  have hsub : (Token.operator .sub).SpelledBy ":sub\n".toList :=
    .mk [] ['\n'] (.operator .sub) nofun (hblank _ rfl)
  have hspelled : List.Forall₂ Token.SpelledBy t.tokens texts :=
    .cons hname (.cons hnumber (.cons hsub .nil))
  have hzero : (Token.literal (.number (.ofBits 0x8000000000000000))).SpelledBy
      ([' '] ++ "-0".toList ++ []) :=
    hminus ▸ .mk [' '] [] (.number _) (hblank ' ' rfl) nofun
  have hnan : (Token.literal (.number (.ofBits 0xFFF8000000000001))).SpelledBy "NaN".toList :=
    .mk [] [] (.number (.ofBits 0xFFF8000000000001)) nofun nofun
  refine ⟨htokens t.tokens texts (List.cons_ne_nil _ _) hspelled, ?_, ?_, ?_, ?_⟩
  · have hthree : t.value? (fun _ => some (.number 5)) = some (.number 3) := by decide
    obtain ⟨y, hy, heval⟩ := hvalue t texts _ hspelled fun name _ => ⟨5, rfl⟩
    cases hy.symm.trans hthree
    exact ⟨hthree, heval⟩
  · obtain ⟨x, hx, hkept, -⟩ := hbits 0x8000000000000000 _ hzero
    exact ⟨x, hx, hkept (by decide)⟩
  · obtain ⟨x, hx, -, hlost⟩ := hbits 0xFFF8000000000001 _ hnan
    exact ⟨x, hx, hlost (by decide)⟩
  · exact hfield r .empty name (.text ['x']) rfl (by decide) (by decide)

end Expression

end Telemetry
