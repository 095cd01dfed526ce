import Telemetry.Decimal.Layout

/-!
# Values

The scalars that records, expressions and namespaces share: numbers and texts. A raw token is a
number if, without the padding around it, it reads as a decimal, and a text otherwise.

## Main definitions

- `Value` — a number or a text
- `Value.parse` — the value of a raw token
- `Value.canonical` — the text of a value in names and messages
-/

namespace Telemetry

/-- A typed scalar. -/
inductive Value
  | number (x : Float)
  | text (t : Text)
  deriving DecidableEq

namespace Value

/-- The characters that may pad a raw token. The colon is one of them, for fields written `key:`. -/
def isPadding (c : Char) : Bool :=
  c == ':' || c == ' ' || c == '\t' || c == '\r' || c == '\n'

theorem isPadding_iff {c : Char} : isPadding c ↔ c ∈ [':', ' ', '\t', '\r', '\n'] := by
  simp [isPadding, or_assoc]

/-- The value of a raw token: without its padding it is a number if it reads as one, and otherwise a
    text with all the blanks inside it. -/
def parse (token : Text) : Value :=
  let stripped := token.strip isPadding
  match Decimal.read? stripped with
  | some x => .number x
  | none => .text stripped

/-- The number that a value is. -/
def number? : Value → Option Float
  | .number x => some x
  | .text _ => none

/-- What a value is called in messages. -/
def kind : Value → String
  | .number _ => "number"
  | .text _ => "string"

/-- The text of a value in names and messages. -/
def canonical : Value → Text
  | .number x => Decimal.canonical.write x
  | .text t => t

end Value

end Telemetry
