import Telemetry.Decimal.Reader

/-!
# The shortest decimal that reads back

A finite double is written with as few digits as still read back to it, and of the decimals with
that many digits with the one nearest to it.

## Main definitions

- `Decimal.Tie` — the choice between two equally near decimals
- `Decimal.leadingExponent` — the decimal place of the first digit
- `Decimal.Scientific.exact` — the decimal equal to a number of units
- `Decimal.Scientific.shortest` — the shortest decimal that reads back

## Design notes

With `n` digits only the two decimals around the value can be nearest, and both are tried with the
reader itself. Should seventeen digits not suffice, the exact decimal is taken, so what is written
always reads back.
-/

namespace Telemetry.Decimal

/-- Which of two equally near decimals is taken: the greater one, or the one with an even last
    digit. -/
inductive Tie
  | up
  | even
  deriving DecidableEq, Repr

/-- The number of decimal digits of a natural number, where zero has none. -/
def digitCount (n : Nat) : Nat :=
  if n = 0 then 0 else (Nat.toDigits 10 n).length

/-- The exponent of the greatest power of ten that is not above a positive number of units. -/
def leadingExponent (units : Nat) : Int :=
  if unitsOfOne ≤ units then digitCount (units / unitsOfOne) - 1
  else -(digitCount ((unitsOfOne + units - 1) / units - 1) : Int)

/-- The decimal equal to a number of units. -/
def Scientific.exact (units : Nat) : Scientific where
  coefficient := units * Nat.pow 5 leastExponent
  exponent := -leastExponent

/-- Whether a decimal reads back to a number of units. -/
def Scientific.readsBackTo (s : Scientific) (units : Nat) : Bool :=
  s.magnitude < infinityBits && unitsOfBits s.magnitude == units

/-- The decimals with a given exponent on both sides of a number of units, the nearer one first. -/
def Scientific.around (tie : Tie) (units : Nat) (exponent : Int) : List Scientific :=
  let (num, den) :=
    match exponent with
    | .ofNat e => (units, unitsOfOne * Nat.pow 10 e)
    | .negSucc e => (units * Nat.pow 10 (e + 1), unitsOfOne)
  let below := num / den
  let rest := 2 * (num % den)
  let lower : Scientific := ⟨below, exponent⟩
  let upper : Scientific := ⟨below + 1, exponent⟩
  let upperFirst :=
    if rest = den then tie = .up || below % 2 = 1 else den < rest
  if upperFirst then [upper, lower] else [lower, upper]

/-- The shortest decimal that reads back to a positive number of units; of several of that length
    the nearest one. -/
def Scientific.shortest (tie : Tie) (units : Nat) : Scientific :=
  let leading := leadingExponent units
  let found := (List.range 17).findSome? fun (n : Nat) =>
    (around tie units (leading - n)).find? (·.readsBackTo units)
  found.getD (exact units)

/-- The same number with a coefficient that does not end in zero, for coefficients of at most
    `fuel` digits. -/
def Scientific.trim (fuel : Nat) (s : Scientific) : Scientific :=
  match fuel with
  | 0 => s
  | fuel + 1 =>
    if s.coefficient % 10 = 0 then trim fuel ⟨s.coefficient / 10, s.exponent + 1⟩ else s

end Telemetry.Decimal
