import Telemetry.Record.Basic
import Telemetry.Text.Blank

/-!
# Key and value lines

A record is a block of lines, each with a key and a value. What follows the value on a line is not
read, and lines with fewer than two fields are passed over.

## Main definitions

- `KeyValue.tokens` — the fields of a line
- `KeyValue.pair?` — the key and the value of a line
- `KeyValue.block` — the record of a block
- `KeyValue.records` — the records of a text
-/

namespace Telemetry.KeyValue

/-- The fields of a line: between its separators, or between blanks if the separator is empty. -/
def tokens (separator line : Text) : List Text :=
  if separator.isEmpty then line.fields else Text.splitText separator line

/-- The characters that may stand around a key. -/
def isKeyPadding (c : Char) : Bool :=
  Text.isBlank c || c == ':'

theorem isKeyPadding_iff {c : Char} : isKeyPadding c ↔ Text.isBlank c ∨ c = ':' := by
  simp [isKeyPadding]

/-- The key and the value of a line with at least two fields. -/
def pair? (separator line : Text) : Option (Text × Value) :=
  match tokens separator line with
  | key :: value :: _ => some (key.strip isKeyPadding, .parse value)
  | _ => none

/-- The record of a block of lines; of several lines with the same key the last one counts. -/
def block (separator data : Text) : Record :=
  SortedMap.ofList (data.lines.filterMap (pair? separator))

/-- The records of a text that are not empty. -/
def records (recordSeparator fieldSeparator data : Text) : List Record :=
  ((Record.split recordSeparator data).map (block fieldSeparator)).filter fun r => !r.isEmpty

end Telemetry.KeyValue
