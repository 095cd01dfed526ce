import Telemetry.Decimal.Layout

/-!
# JSON values

## Main definitions

- `Json.Numeral` — a number as it stands in a document: an integer of 64 bits, or else a double
- `Json` — a value
- `Json.render` — the compact text of a value

## Design notes

The members of an object keep their order. What is not finite has no number in JSON and is written
as a string.
-/

namespace Telemetry

/-- A number as it stands in a document. -/
inductive Json.Numeral
  /-- An integer from zero to below `2 ^ 64`. -/
  | natural (n : Nat)
  /-- A negative integer from `-2 ^ 63` on. -/
  | negative (n : Nat)
  | double (x : Float)
  deriving DecidableEq

/-- A JSON value. -/
inductive Json
  | null
  | bool (b : Bool)
  | number (n : Json.Numeral)
  | string (t : Text)
  | array (items : List Json)
  | object (members : List (Text × Json))

namespace Json

-- ════════════════════════════════════════════════════════════════════════
-- Strings
-- ════════════════════════════════════════════════════════════════════════

/-- A hexadecimal digit in lower case. -/
def hexDigit (n : Nat) : Char :=
  Nat.digitChar (n % 16)

/-- The spelling of a character inside a string. Quotes, backslashes and control characters are
    escaped, and all else stands for itself. -/
def escapeChar (c : Char) : Text :=
  if c = '"' then ['\\', '"']
  else if c = '\\' then ['\\', '\\']
  else if c = '\x08' then ['\\', 'b']
  else if c = '\x0C' then ['\\', 'f']
  else if c = '\n' then ['\\', 'n']
  else if c = '\r' then ['\\', 'r']
  else if c = '\t' then ['\\', 't']
  else if c.toNat < 0x20 then
    ['\\', 'u', '0', '0', hexDigit (c.toNat / 16), hexDigit c.toNat]
  else [c]

/-- The spelling of a text as a string. -/
def quote (t : Text) : Text :=
  '"' :: t.flatMap escapeChar ++ ['"']

-- ════════════════════════════════════════════════════════════════════════
-- Values
-- ════════════════════════════════════════════════════════════════════════

/-- Whether a double has a spelling as a number. -/
def isFinite (x : Float) : Bool :=
  match Decimal.Scalar.ofFloat x with
  | .finite .. => true
  | _ => false

/-- The spelling of a double; what is not finite is a string. -/
def renderDouble (x : Float) : Text :=
  let t := Decimal.document.write x
  if isFinite x then t else quote t

/-- The spelling of a number. -/
def Numeral.render : Numeral → Text
  | natural n => Decimal.digits n
  | negative n => '-' :: Decimal.digits n
  | double x => renderDouble x

mutual

/-- The compact text of a value. -/
def render : Json → Text
  | null => ['n', 'u', 'l', 'l']
  | bool true => ['t', 'r', 'u', 'e']
  | bool false => ['f', 'a', 'l', 's', 'e']
  | number n => n.render
  | string t => quote t
  | array items => '[' :: renderItems items ++ [']']
  | object members => '{' :: renderMembers members ++ ['}']

/-- The texts of the items of an array, with commas between them. -/
def renderItems : List Json → Text
  | [] => []
  | [v] => render v
  | v :: vs => render v ++ ',' :: renderItems vs

/-- The texts of the members of an object, with commas between them. -/
def renderMembers : List (Text × Json) → Text
  | [] => []
  | [(k, v)] => quote k ++ ':' :: render v
  | (k, v) :: ms => quote k ++ ':' :: render v ++ ',' :: renderMembers ms

end

end Json

end Telemetry
