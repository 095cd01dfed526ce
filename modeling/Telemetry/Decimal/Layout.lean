import Telemetry.Decimal.Shortest

/-!
# Layouts of numbers

How the digits of a number are set: plainly, with zeros up to the point, or with an exponent. A
layout is a record of these decisions; two layouts are used by the library.

## Main definitions

- `Decimal.Layout` — the decisions
- `Decimal.Layout.write` — the text of a number in a layout
- `Decimal.canonical` — the layout of values in names and messages
- `Decimal.document` — the layout of numbers in JSON documents
-/

namespace Telemetry.Decimal

/-- The decisions that a number format makes beyond the choice of digits. -/
structure Layout where
  /-- The least exponent of the leading digit that is still written plainly. -/
  plainFrom : Int
  /-- The greatest exponent of the leading digit that is still written plainly. -/
  plainTo : Int
  /-- Whether a plain number always has a fraction. -/
  keepsFraction : Bool
  /-- The least number of digits of an exponent. -/
  exponentWidth : Nat
  /-- The choice between two equally near decimals. -/
  tie : Tie

/-- Values in names and messages: plain from `0.0001` to below `1e+21`, integers without a point,
    and exponents of at least two digits. -/
def canonical : Layout where
  plainFrom := -4
  plainTo := 20
  keepsFraction := false
  exponentWidth := 2
  tie := .up

/-- Numbers in JSON documents: plain from `0.00001` to below `1e+16`, always with a fraction, and
    exponents without padding. -/
def document : Layout where
  plainFrom := -5
  plainTo := 15
  keepsFraction := true
  exponentWidth := 1
  tie := .even

/-- The digits of a natural number. -/
def digits (n : Nat) : Text :=
  Nat.toDigits 10 n

/-- The digits of an integer, with a minus sign if it is negative. -/
def integer : Int → Text
  | .ofNat n => digits n
  | .negSucc n => '-' :: digits (n + 1)

/-- The digits of a natural number, with leading zeros up to a width. -/
def padded (width n : Nat) : Text :=
  List.replicate (width - (digits n).length) '0' ++ digits n

/-- A number with its digits at their places and zeros between them and the point. -/
def Layout.plain (l : Layout) (ds : Text) (exponent : Int) : Text :=
  match exponent with
  | .ofNat e => ds ++ List.replicate e '0' ++ if l.keepsFraction then ['.', '0'] else []
  | .negSucc e =>
    let places := e + 1
    if places < ds.length then ds.take (ds.length - places) ++ '.' :: ds.drop (ds.length - places)
    else '0' :: '.' :: List.replicate (places - ds.length) '0' ++ ds

/-- A number as its first digit, the other digits behind a point, and an exponent. -/
def Layout.withExponent (l : Layout) (ds : Text) (leading : Int) : Text :=
  ds.take 1 ++ (if ds.length ≤ 1 then [] else '.' :: ds.drop 1) ++
    'e' :: (if leading < 0 then '-' else '+') :: padded l.exponentWidth leading.natAbs

/-- The text of a decimal. -/
def Layout.writeScientific (l : Layout) (s : Scientific) : Text :=
  let ds := digits s.coefficient
  let leading := s.exponent + ds.length - 1
  if l.plainFrom ≤ leading ∧ leading ≤ l.plainTo then l.plain ds s.exponent
  else l.withExponent ds leading

/-- The text of a positive or vanishing number of units. -/
def Layout.writeUnits (l : Layout) (units : Nat) : Text :=
  if units = 0 then l.plain ['0'] 0
  else
    let s := Scientific.shortest l.tie units
    l.writeScientific (s.trim (digits s.coefficient).length)

/-- The text of a number: words for what is not finite, and else the shortest digits that read
    back. -/
def Layout.write (l : Layout) (x : Float) : Text :=
  match Scalar.ofFloat x with
  | .notANumber => ['N', 'a', 'N']
  | .infinite negative => (if negative then '-' else '+') :: ['I', 'n', 'f']
  | .finite negative units => (if negative then ['-'] else []) ++ l.writeUnits units

end Telemetry.Decimal
