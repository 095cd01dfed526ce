/-!
# Binary floating point numbers as integers

Every finite double is a whole number of units of `2 ^ (-1074)`, the least positive double. This
file reads the number of units off the bits, and rounds a positive fraction to the nearest double.

## Main definitions

- `Decimal.Scalar` — what a double stands for: not a number, an infinity, or signed units
- `Decimal.Scalar.ofFloat` — the meaning of a double
- `Decimal.nearestBits` — the bits of the double nearest to a fraction
- `Decimal.roundHalfEven` — the integer nearest to a fraction

## Design notes

The bits of a positive double grow with its value, one by one: `shift * 2 ^ 52 + significand` are
the bits of `significand * 2 ^ shift` units, also when the significand was rounded up to the next
power of two, and also below the normal range, where the shift is zero.
-/

namespace Telemetry.Decimal

/-- The value of a double. -/
inductive Scalar
  | notANumber
  | infinite (negative : Bool)
  /-- A multiple of `2 ^ (-1074)`; zero keeps its sign. -/
  | finite (negative : Bool) (units : Nat)
  deriving DecidableEq, Repr

/-- The number of bits of the fraction field. -/
def fractionBits : Nat := 52

/-- The number of values of the fraction field. -/
def fractionRange : Nat := Nat.pow 2 fractionBits

/-- The number of binary places of the least positive double. -/
def leastExponent : Nat := 1074

/-- The number of units that make one. -/
def unitsOfOne : Nat := Nat.pow 2 leastExponent

/-- The bits of negative zero, which are those of the sign alone. -/
def signBits : Nat := Nat.pow 2 63

/-- The bits of positive infinity, which follow those of the greatest finite double. -/
def infinityBits : Nat := 2047 * fractionRange

/-- The number of units of a positive finite double with the given bits. -/
def unitsOfBits (bits : Nat) : Nat :=
  let exponent := bits / fractionRange
  let fraction := bits % fractionRange
  if exponent = 0 then fraction else (fraction + fractionRange) * Nat.pow 2 (exponent - 1)

/-- The meaning of a double. -/
def Scalar.ofFloat (x : Float) : Scalar :=
  let bits := x.toBits.toNat
  let negative := signBits ≤ bits
  let magnitude := bits % signBits
  if infinityBits < magnitude then .notANumber
  else if magnitude = infinityBits then .infinite negative
  else .finite negative (unitsOfBits magnitude)

/-- The integer nearest to a fraction; of two equally near ones the even one. -/
def roundHalfEven (num den : Nat) : Nat :=
  let quotient := num / den
  let remainder := num % den
  if 2 * remainder < den then quotient
  else if den < 2 * remainder then quotient + 1
  else quotient + quotient % 2

/-- The bits of the double nearest to a fraction, with ties to the even significand; fractions
    beyond the finite range give infinity. -/
def nearestBits (num den : Nat) : Nat :=
  let units := num * unitsOfOne
  let shift := (units / den).log2 - fractionBits
  min infinityBits (shift * fractionRange + roundHalfEven units (den * Nat.pow 2 shift))

/-- The double with the given sign and magnitude bits. -/
def ofMagnitude (negative : Bool) (magnitude : Nat) : Float :=
  Float.ofBits (UInt64.ofNat ((if negative then signBits else 0) + magnitude))

/-- Positive or negative infinity. -/
def infinity (negative : Bool) : Float :=
  ofMagnitude negative infinityBits

/-- The value that is not a number. -/
def notANumber : Float :=
  ofMagnitude false (infinityBits + fractionRange / 2)

end Telemetry.Decimal
