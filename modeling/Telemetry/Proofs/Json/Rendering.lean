import Telemetry.Proofs.Decimal.ReadBack
import Telemetry.Proofs.Json.Drafts

/-!
# Rendered values read back

The compact text of a value is one of its spellings, so parsing it gives the value. There is one
exception: a double that is not finite has no number in JSON, and its text is that of a string.

## Main definitions

- `Json.InRange` — the integers of a value fit into 64 bits
- `Json.printed` — a value with strings for doubles that are not finite
- `Json.IsPrintable` — a text without control characters

## Main statements

- `Json.stringSpelledBy_quote` — a quoted text spells the text
- `Json.spelledBy_render` — a rendered value spells what is printed of it
- `Json.parse?_render` — parsing undoes rendering
- `Json.isPrintable_render` — a rendered value fits on a line
-/

namespace Telemetry.Json

-- ════════════════════════════════════════════════════════════════════════
-- Strings
-- ════════════════════════════════════════════════════════════════════════

theorem isHexDigit_hexDigit (n : Nat) : IsHexDigit (n % 16) (hexDigit n) :=
  ⟨Nat.mod_lt n (by decide), .inl rfl⟩

theorem charSpelledBy_escapeChar (c : Char) : CharSpelledBy c (escapeChar c) := by
  unfold escapeChar
  split_ifs with hquote hbackslash hb hf hn hr ht hcontrol
  iterate 7
    · subst c
      exact .short (by decide)
  · refine .unit ⟨0, 0, c.toNat / 16 % 16, c.toNat % 16, '0', '0', _, _, isHexDigit_hexDigit 0,
      isHexDigit_hexDigit 0, isHexDigit_hexDigit _, isHexDigit_hexDigit _, ?_, rfl⟩
    omega
  · exact .plain hquote hbackslash (Nat.not_lt.mp hcontrol)

theorem charsSpelledBy_flatMap (t : Text) : CharsSpelledBy t (t.flatMap escapeChar) := by
  induction t with
  | nil => exact .nil
  | cons c t ih =>
    rw [List.flatMap_cons]
    exact .cons (charSpelledBy_escapeChar c) ih

theorem stringSpelledBy_quote (t : Text) : StringSpelledBy t (quote t) :=
  .quoted (charsSpelledBy_flatMap t)

-- ════════════════════════════════════════════════════════════════════════
-- Values
-- ════════════════════════════════════════════════════════════════════════

/-- An integer fits into 64 bits, with a sign or without. -/
def Numeral.InRange : Numeral → Prop
  | natural n => n < 2 ^ 64
  | negative n => 0 < n ∧ n ≤ 2 ^ 63
  | double _ => True

mutual

/-- The integers of a value fit into 64 bits. -/
def InRange : Json → Prop
  | null => True
  | bool _ => True
  | number n => n.InRange
  | string _ => True
  | array items => ItemsInRange items
  | object members => MembersInRange members

/-- The integers of some values fit into 64 bits. -/
def ItemsInRange : List Json → Prop
  | [] => True
  | v :: vs => InRange v ∧ ItemsInRange vs

/-- The integers of the values of some members fit into 64 bits. -/
def MembersInRange : List (Text × Json) → Prop
  | [] => True
  | (_, v) :: ms => InRange v ∧ MembersInRange ms

end

/-- What is printed of a number: a string if it is not finite. -/
def Numeral.printed : Numeral → Json
  | double x => if isFinite x then number (double x) else string (Decimal.document.write x)
  | n => number n

mutual

/-- A value with strings in the place of doubles that are not finite. -/
def printed : Json → Json
  | number n => n.printed
  | array items => array (printedItems items)
  | object members => object (printedMembers members)
  | v => v

/-- What is printed of the items of an array. -/
def printedItems : List Json → List Json
  | [] => []
  | v :: vs => printed v :: printedItems vs

/-- What is printed of the members of an object. -/
def printedMembers : List (Text × Json) → List (Text × Json)
  | [] => []
  | (k, v) :: ms => (k, printed v) :: printedMembers ms

end

/-- Strings are printed as they are. -/
theorem printedMembers_textMembers (entries : List (Text × Text)) :
    printedMembers (textMembers entries) = textMembers entries := by
  induction entries with
  | nil => rfl
  | cons e entries ih => exact congrArg ((e.1, Json.string e.2) :: ·) ih

theorem membersInRange_textMembers (entries : List (Text × Text)) :
    MembersInRange (textMembers entries) := by
  induction entries with
  | nil => exact trivial
  | cons e entries ih => exact ⟨trivial, ih⟩

/-- The text of a finite double spells it. -/
theorem numeralSpelledBy_write {x : Float} (h : isFinite x) :
    Numeral.SpelledBy (.double x) (Decimal.document.write x) := by
  unfold isFinite at h
  cases hx : Decimal.Scalar.ofFloat x with
  | notANumber =>
    rw [hx] at h
    cases h
  | infinite negative =>
    rw [hx] at h
    cases h
  | finite negative units =>
    obtain ⟨bits, hbits, rfl, hmagnitude⟩ := Decimal.eq_ofMagnitude_of_finite hx
    obtain ⟨p, htext, hp, hkeep⟩ := Decimal.document.exists_spelling_writeUnits hbits
    have hspelled := Numeral.SpelledBy.double negative p (hkeep rfl) (hp.symm ▸ hbits)
    rw [hp, hmagnitude, ← htext] at hspelled
    rw [Decimal.Layout.write, hx]
    exact hspelled

theorem Numeral.spelledBy_render {n : Numeral} (h : n.InRange) :
    Json.SpelledBy n.printed n.render := by
  cases n with
  | natural n => exact .number (.natural h)
  | negative n => exact .number (.negative h.1 h.2)
  | double x =>
    show Json.SpelledBy
      (if isFinite x then number (double x) else string (Decimal.document.write x))
      (if isFinite x then Decimal.document.write x else quote (Decimal.document.write x))
    by_cases hfinite : isFinite x
    · rw [if_pos hfinite, if_pos hfinite]
      exact .number (numeralSpelledBy_write hfinite)
    · rw [if_neg hfinite, if_neg hfinite]
      exact .string (stringSpelledBy_quote _)

theorem isSpace_nil : IsSpace [] := by
  intro c hc
  cases hc

theorem itemsSpelledBy_single {v : Json} {t : Text} (h : SpelledBy v t) :
    ItemsSpelledBy [v] t := by
  simpa using ItemsSpelledBy.single isSpace_nil h isSpace_nil

theorem itemsSpelledBy_cons {v v' : Json} {vs : List Json} {t t' : Text} (h : SpelledBy v t)
    (rest : ItemsSpelledBy (v' :: vs) t') : ItemsSpelledBy (v :: v' :: vs) (t ++ ',' :: t') := by
  simpa using ItemsSpelledBy.cons isSpace_nil h isSpace_nil rest

theorem memberSpelledBy_compact {k : Text} {v : Json} {t : Text} (h : SpelledBy v t) :
    MemberSpelledBy (k, v) (quote k ++ ':' :: t) := by
  simpa using MemberSpelledBy.mk isSpace_nil (stringSpelledBy_quote k) isSpace_nil isSpace_nil h
    isSpace_nil

mutual

/-- A rendered value spells what is printed of it. -/
theorem spelledBy_render : ∀ (v : Json), v.InRange → SpelledBy v.printed v.render
  | null, _ => .null
  | bool true, _ => .true
  | bool false, _ => .false
  | number _, h => Numeral.spelledBy_render h
  | string t, _ => .string (stringSpelledBy_quote t)
  | array items, h => .array (itemsSpelledBy_render items h)
  | object members, h => .object (membersSpelledBy_render members h)

theorem itemsSpelledBy_render : ∀ vs : List Json, ItemsInRange vs →
    ItemsSpelledBy (printedItems vs) (renderItems vs)
  | [], _ => .nil isSpace_nil
  | [v], h => itemsSpelledBy_single (spelledBy_render v h.1)
  | v :: v' :: vs, h =>
    itemsSpelledBy_cons (spelledBy_render v h.1) (itemsSpelledBy_render (v' :: vs) h.2)

theorem membersSpelledBy_render : ∀ ms : List (Text × Json), MembersInRange ms →
    MembersSpelledBy (printedMembers ms) (renderMembers ms)
  | [], _ => .nil isSpace_nil
  | [(_, v)], h => .single (memberSpelledBy_compact (spelledBy_render v h.1))
  | (_, v) :: m :: ms, h =>
    .cons (memberSpelledBy_compact (spelledBy_render v h.1)) (membersSpelledBy_render (m :: ms) h.2)

end

theorem documentSpelledBy_render {v : Json} (h : v.InRange) :
    DocumentSpelledBy v.printed v.render := by
  have hdocument := DocumentSpelledBy.mk isSpace_nil (spelledBy_render v h) isSpace_nil
  rwa [List.nil_append, List.append_nil] at hdocument

/-- Parsing undoes rendering, up to doubles that are not finite. -/
theorem parse?_render {v : Json} (h : v.InRange) : parse? v.render = some v.printed :=
  parse?_documentSpelledBy (documentSpelledBy_render h)

-- ════════════════════════════════════════════════════════════════════════
-- Characters
-- ════════════════════════════════════════════════════════════════════════

/-- A text without control characters of ASCII, and so without line feeds. -/
def IsPrintable (t : Text) : Prop :=
  ∀ c ∈ t, 0x20 ≤ c.toNat

theorem IsPrintable.nil : IsPrintable [] := by
  intro c hc
  cases hc

theorem IsPrintable.cons {c : Char} {t : Text} (h : 0x20 ≤ c.toNat) (ht : IsPrintable t) :
    IsPrintable (c :: t) := by
  intro d hd
  obtain rfl | hd := List.mem_cons.mp hd
  · exact h
  · exact ht d hd

theorem IsPrintable.append {t t' : Text} (h : IsPrintable t) (h' : IsPrintable t') :
    IsPrintable (t ++ t') := by
  intro c hc
  obtain hc | hc := List.mem_append.mp hc
  · exact h c hc
  · exact h' c hc

theorem isPrintable_escapeChar (c : Char) : IsPrintable (escapeChar c) := by
  have hhex : ∀ n, 0x20 ≤ (hexDigit n).toNat := by
    intro n
    have hdigit : ∀ m < 16, 0x20 ≤ (Nat.digitChar m).toNat := by decide
    exact hdigit (n % 16) (Nat.mod_lt n (by decide))
  unfold escapeChar
  split_ifs with hquote hbackslash hb hf hn hr ht hcontrol
  iterate 7
    · simp [IsPrintable]
  · have hzero : IsPrintable ['\\', 'u', '0', '0'] := by simp [IsPrintable]
    exact hzero.append (.cons (hhex _) (.cons (hhex _) .nil))
  · exact .cons (Nat.not_lt.mp hcontrol) .nil

theorem isPrintable_quote (t : Text) : IsPrintable (quote t) := by
  have hinside : IsPrintable (t.flatMap escapeChar) := by
    intro c hc
    obtain ⟨d, -, hd⟩ := List.mem_flatMap.mp hc
    exact isPrintable_escapeChar d c hd
  have hquote : 0x20 ≤ '"'.toNat := by decide
  exact .append (.cons hquote hinside) (.cons hquote .nil)

theorem isPrintable_of_isNumeric {t : Text} (h : ∀ c ∈ t, Decimal.IsNumeric c) :
    IsPrintable t := by
  intro c hc
  obtain hdigit | hlisted := h c hc
  · rw [Char.isDigit, Bool.and_eq_true, decide_eq_true_eq] at hdigit
    have hle : 48 ≤ c.val.toNat := UInt32.le_iff_toNat_le.mp hdigit.1
    exact Nat.le_trans (by decide) hle
  · have hall : IsPrintable ['.', 'e', '+', '-', 'N', 'a', 'I', 'n', 'f'] := by simp [IsPrintable]
    exact hall c hlisted

theorem isPrintable_digits (n : Nat) : IsPrintable (Decimal.digits n) :=
  isPrintable_of_isNumeric fun _ hc => .inl (Decimal.isDigit_of_mem_digits hc)

theorem Numeral.isPrintable_render (n : Numeral) : IsPrintable n.render := by
  cases n with
  | natural n => exact isPrintable_digits n
  | negative n => exact .cons (by decide) (isPrintable_digits n)
  | double x =>
    show IsPrintable
      (if isFinite x then Decimal.document.write x else quote (Decimal.document.write x))
    by_cases hfinite : isFinite x
    · rw [if_pos hfinite]
      exact isPrintable_of_isNumeric fun _ hc => Decimal.Layout.isNumeric_of_mem_write hc
    · rw [if_neg hfinite]
      exact isPrintable_quote _

theorem isPrintable_member {k t : Text} (h : IsPrintable t) :
    IsPrintable (quote k ++ ':' :: t) :=
  (isPrintable_quote k).append (.cons (by decide) h)

mutual

/-- A rendered value has no control characters. -/
theorem isPrintable_render : ∀ v : Json, IsPrintable v.render
  | null => by simp [IsPrintable, render]
  | bool true => by simp [IsPrintable, render]
  | bool false => by simp [IsPrintable, render]
  | number n => n.isPrintable_render
  | string t => isPrintable_quote t
  | array items =>
    .append (.cons (by decide) (isPrintable_renderItems items)) (.cons (by decide) .nil)
  | object members =>
    .append (.cons (by decide) (isPrintable_renderMembers members)) (.cons (by decide) .nil)

theorem isPrintable_renderItems : ∀ vs : List Json, IsPrintable (renderItems vs)
  | [] => .nil
  | [v] => isPrintable_render v
  | v :: v' :: vs =>
    (isPrintable_render v).append (.cons (by decide) (isPrintable_renderItems (v' :: vs)))

theorem isPrintable_renderMembers : ∀ ms : List (Text × Json), IsPrintable (renderMembers ms)
  | [] => .nil
  | [(_, v)] => isPrintable_member (isPrintable_render v)
  | (_, v) :: m :: ms =>
    (isPrintable_member (isPrintable_render v)).append
      (.cons (by decide) (isPrintable_renderMembers (m :: ms)))

end

end Telemetry.Json
