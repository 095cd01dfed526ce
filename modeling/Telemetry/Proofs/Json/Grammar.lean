import Telemetry.Json.Token
import Telemetry.Proofs.Decimal.Spelling

/-!
# The grammar of JSON texts

Which texts spell a value: every character of a string may stand for itself or be escaped, in one
of several ways, and blanks may stand around every token.

## Main definitions

- `Json.CharSpelledBy`, `Json.StringSpelledBy` — the spellings of a character and of a string
- `Json.Numeral.SpelledBy` — the spellings of a number
- `Json.SpelledBy`, `Json.DocumentSpelledBy` — the spellings of a value, without and with blanks
  around it
-/

namespace Telemetry.Json

-- ════════════════════════════════════════════════════════════════════════
-- Strings
-- ════════════════════════════════════════════════════════════════════════

/-- The characters that have a short escape, with the letter of it. -/
def shortEscapes : List (Char × Char) :=
  [('"', '"'), ('\\', '\\'), ('/', '/'), ('\x08', 'b'), ('\x0C', 'f'), ('\n', 'n'), ('\r', 'r'),
    ('\t', 't')]

/-- A character is the hexadecimal digit of a number below sixteen, in either case. -/
def IsHexDigit (n : Nat) (c : Char) : Prop :=
  n < 16 ∧ (c = Nat.digitChar n ∨ c = (Nat.digitChar n).toUpper)

/-- A text is the escape of a code unit: a backslash, the letter `u` and four hexadecimal digits. -/
def UnitSpelledBy (n : Nat) (t : Text) : Prop :=
  ∃ n₃ n₂ n₁ n₀ a b c d, IsHexDigit n₃ a ∧ IsHexDigit n₂ b ∧ IsHexDigit n₁ c ∧ IsHexDigit n₀ d ∧
    n = ((n₃ * 16 + n₂) * 16 + n₁) * 16 + n₀ ∧ t = ['\\', 'u', a, b, c, d]

/-- The first code unit of a character beyond the first plane. -/
def highUnit (c : Char) : Nat :=
  0xD800 + (c.toNat - 0x10000) / 0x400

/-- The second code unit of a character beyond the first plane. -/
def lowUnit (c : Char) : Nat :=
  0xDC00 + (c.toNat - 0x10000) % 0x400

/-- The spellings of a character inside a string. -/
inductive CharSpelledBy (c : Char) : Text → Prop
  /-- A character stands for itself, unless it is a quote, a backslash or a control character. -/
  | plain (quote : c ≠ '"') (backslash : c ≠ '\\') (control : 0x20 ≤ c.toNat) : CharSpelledBy c [c]
  | short {letter : Char} (listed : (c, letter) ∈ shortEscapes) : CharSpelledBy c ['\\', letter]
  | unit {t : Text} (h : UnitSpelledBy c.toNat t) : CharSpelledBy c t
  /-- A character beyond the first plane is a pair of code units. -/
  | pair {t t' : Text} (beyond : 0x10000 ≤ c.toNat) (high : UnitSpelledBy (highUnit c) t)
      (low : UnitSpelledBy (lowUnit c) t') : CharSpelledBy c (t ++ t')

/-- The spellings of the characters of a text, one after the other. -/
inductive CharsSpelledBy : Text → Text → Prop
  | nil : CharsSpelledBy [] []
  | cons {c : Char} {s t t' : Text} (head : CharSpelledBy c t) (tail : CharsSpelledBy s t') :
      CharsSpelledBy (c :: s) (t ++ t')

/-- The spellings of a string, with its quotes. -/
inductive StringSpelledBy (s : Text) : Text → Prop
  | quoted {t : Text} (h : CharsSpelledBy s t) : StringSpelledBy s ('"' :: t ++ ['"'])

-- ════════════════════════════════════════════════════════════════════════
-- Values
-- ════════════════════════════════════════════════════════════════════════

/-- The spellings of a number. A double is a decimal in its range that has a fraction or an exponent
    with a sign, or it is a zero with a minus, which no integer has. -/
inductive Numeral.SpelledBy : Numeral → Text → Prop
  | natural {n : Nat} (h : n < 2 ^ 64) : SpelledBy (.natural n) (Decimal.digits n)
  | negative {n : Nat} (pos : 0 < n) (h : n ≤ 2 ^ 63) :
      SpelledBy (.negative n) ('-' :: Decimal.digits n)
  | negativeZero : SpelledBy (.double (Decimal.ofMagnitude true 0)) ['-', '0']
  | double (negative : Bool) (p : Decimal.Spelling) (h : p.fraction ≠ [] ∨ p.exponent.isSome)
      (finite : p.scientific.magnitude < Decimal.infinityBits) :
      SpelledBy (.double (Decimal.ofMagnitude negative p.scientific.magnitude))
        ((if negative then ['-'] else []) ++ p.text)

/-- A text that may stand between tokens. -/
def IsSpace (w : Text) : Prop :=
  ∀ c ∈ w, isSpace c

mutual

/-- The spellings of a value, without blanks around them. -/
inductive SpelledBy : Json → Text → Prop
  | null : SpelledBy .null "null".toList
  | true : SpelledBy (.bool true) "true".toList
  | false : SpelledBy (.bool false) "false".toList
  | number {n : Numeral} {t : Text} (h : n.SpelledBy t) : SpelledBy (.number n) t
  | string {s t : Text} (h : StringSpelledBy s t) : SpelledBy (.string s) t
  | array {items : List Json} {t : Text} (h : ItemsSpelledBy items t) :
      SpelledBy (.array items) ('[' :: t ++ [']'])
  | object {members : List (Text × Json)} {t : Text} (h : MembersSpelledBy members t) :
      SpelledBy (.object members) ('{' :: t ++ ['}'])

/-- The spellings of the items of an array, with their commas. -/
inductive ItemsSpelledBy : List Json → Text → Prop
  | nil {w : Text} (space : IsSpace w) : ItemsSpelledBy [] w
  | single {v : Json} {w t w' : Text} (before : IsSpace w) (h : SpelledBy v t)
      (after : IsSpace w') : ItemsSpelledBy [v] (w ++ t ++ w')
  | cons {v v' : Json} {vs : List Json} {w t w' t' : Text} (before : IsSpace w)
      (h : SpelledBy v t) (after : IsSpace w') (rest : ItemsSpelledBy (v' :: vs) t') :
      ItemsSpelledBy (v :: v' :: vs) (w ++ t ++ w' ++ ',' :: t')

/-- The spellings of a member of an object. -/
inductive MemberSpelledBy : Text × Json → Text → Prop
  | mk {k : Text} {v : Json} {w s w₁ w₂ t w₃ : Text} (before : IsSpace w)
      (key : StringSpelledBy k s) (colon : IsSpace w₁) (gap : IsSpace w₂) (h : SpelledBy v t)
      (after : IsSpace w₃) :
      MemberSpelledBy (k, v) (w ++ s ++ w₁ ++ ':' :: (w₂ ++ t ++ w₃))

/-- The spellings of the members of an object, with their commas. -/
inductive MembersSpelledBy : List (Text × Json) → Text → Prop
  | nil {w : Text} (space : IsSpace w) : MembersSpelledBy [] w
  | single {m : Text × Json} {t : Text} (h : MemberSpelledBy m t) : MembersSpelledBy [m] t
  | cons {m m' : Text × Json} {ms : List (Text × Json)} {t t' : Text} (h : MemberSpelledBy m t)
      (rest : MembersSpelledBy (m' :: ms) t') : MembersSpelledBy (m :: m' :: ms) (t ++ ',' :: t')

end

/-- The texts of a document that spell a value, with blanks around it. -/
inductive DocumentSpelledBy (v : Json) : Text → Prop
  | mk {w t w' : Text} (before : IsSpace w) (h : SpelledBy v t) (after : IsSpace w') :
      DocumentSpelledBy v (w ++ t ++ w')

end Telemetry.Json
