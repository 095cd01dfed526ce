import Telemetry.Decimal.Binary64
import Telemetry.Text.Basic

/-!
# Reading decimal numbers

A decimal text has an optional sign and is one of the words `inf`, `infinity` and `nan`, in either
case, or digits with at most one point among them and an optional exponent. It denotes the nearest
double.

## Main definitions

- `Decimal.Scientific` — a coefficient with a power of ten
- `Decimal.Scientific.magnitude` — the bits of the nearest double
- `Decimal.read?` — the double that a text denotes, if it is a decimal text
-/

namespace Telemetry.Decimal

/-- The number `coefficient * 10 ^ exponent`. -/
structure Scientific where
  coefficient : Nat
  exponent : Int
  deriving DecidableEq, Repr

/-- The bits of the nearest double. Powers of ten far beyond the range of doubles are settled
    without computing them: a coefficient below `2 ^ (n + 1)` is also below `10 ^ (n + 1)`. -/
def Scientific.magnitude (s : Scientific) : Nat :=
  if s.coefficient = 0 then 0
  else if 400 < s.exponent then infinityBits
  else if s.exponent + s.coefficient.log2 + 400 < 0 then 0
  else
    match s.exponent with
    | .ofNat e => nearestBits (s.coefficient * Nat.pow 10 e) 1
    | .negSucc e => nearestBits s.coefficient (Nat.pow 10 (e + 1))

-- ════════════════════════════════════════════════════════════════════════
-- Grammar
-- ════════════════════════════════════════════════════════════════════════

/-- The number that a text of digits denotes. -/
def natural (digits : Text) : Nat :=
  Nat.ofDigitChars 10 digits 0

/-- Takes an optional sign off a text; tells whether it is a minus. -/
def takeSign : Text → Bool × Text
  | '-' :: t => (true, t)
  | '+' :: t => (false, t)
  | t => (false, t)

/-- The exponent that follows a coefficient, where nothing means zero; it takes the whole rest of
    the text. -/
def readExponent? : Text → Option Int
  | [] => some 0
  | c :: t =>
    if c == 'e' || c == 'E' then
      let (negative, digits) := takeSign t
      if digits.isEmpty || !digits.all Char.isDigit then none
      else some (if negative then -(natural digits : Int) else natural digits)
    else none

/-- Reads digits, a point among, before or after them, and an exponent. -/
def readScientific? (t : Text) : Option Scientific :=
  let whole := t.takeWhile Char.isDigit
  let (fraction, rest) :=
    match t.dropWhile Char.isDigit with
    | '.' :: r => (r.takeWhile Char.isDigit, r.dropWhile Char.isDigit)
    | r => ([], r)
  if whole.isEmpty && fraction.isEmpty then none
  else
    (readExponent? rest).map fun e => ⟨natural (whole ++ fraction), e - fraction.length⟩

/-- Whether a text is a word of lower case letters, in either case. -/
def isWord (word t : Text) : Bool :=
  t.map Char.toLower == word

/-- The double that a text denotes, or `none` if the text is not a decimal number. -/
def read? (t : Text) : Option Float :=
  let (negative, t) := takeSign t
  if isWord ['i', 'n', 'f'] t || isWord ['i', 'n', 'f', 'i', 'n', 'i', 't', 'y'] t then
    some (infinity negative)
  else if isWord ['n', 'a', 'n'] t then some notANumber
  else (readScientific? t).map fun s => ofMagnitude negative s.magnitude

end Telemetry.Decimal
