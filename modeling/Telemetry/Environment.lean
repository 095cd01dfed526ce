import Telemetry.Collector
import Telemetry.Text.Utf8

/-!
# The environment of a process

The variables of a process come as one block of bytes, an entry for each variable, with a zero byte
behind every entry. An entry is a name, an equals sign and a value.

## Main definitions

- `Environment.binding?` — the variable of an entry
- `Environment.ofBlock` — the variables of a block
- `Environment.countRanges` — how many numbers a list of ranges holds

## Design notes

What is not well-formed text is no variable. The name of a variable is never empty, so an equals
sign at the start of an entry belongs to the name.
-/

namespace Telemetry.Environment

/-- The variable of an entry. -/
def binding? : List UInt8 → Option (Text × Text)
  | [] => none
  | b :: bytes =>
    match bytes.dropWhile (· != 0x3D) with
    | [] => none
    | _ :: value =>
      match Utf8.decode? (b :: bytes.takeWhile (· != 0x3D)), Utf8.decode? value with
      | some name, some value => some (name, value)
      | _, _ => none

/-- The entries of a block. -/
def entries : List UInt8 → List (List UInt8)
  | [] => []
  | b :: bytes =>
    if b = 0 then [] :: entries bytes
    else
      match entries bytes with
      | [] => [[b]]
      | e :: es => (b :: e) :: es

/-- The variables of a block. -/
def ofBlock (block : List UInt8) : List (Text × Text) :=
  (entries block).filterMap binding?

/-- How many numbers one range holds, which is a number or two with a hyphen between them. -/
def countRange (range : Text) : Nat :=
  match Text.splitChar '-' range with
  | [lo, hi] => Decimal.natural hi + 1 - Decimal.natural lo
  | _ => 1

/-- How many numbers a list of ranges holds, which stand between commas. -/
def countRanges (ranges : Text) : Nat :=
  (Text.splitChar ',' ranges).foldr (fun range n => countRange range + n) 0

end Telemetry.Environment
