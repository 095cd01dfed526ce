import Telemetry.Record.KeyRow
import Telemetry.Record.KeyValue
import Telemetry.Record.Matching
import Telemetry.Record.Table

/-!
# Record formats

The four ways of splitting the contents of a file into records, with their parameters.

## Main definitions

- `Format` — a format with its parameters
- `Format.records` — the records of a text in a format
-/

namespace Telemetry

/-- How the contents of a file are split into records. -/
inductive Format
  /-- Blank-separated columns. Without column names the first line behind the skipped ones is the
      header. -/
  | table (columns : List Text) (skip : Nat)
  /-- Lines of keys and values. An empty field separator stands for runs of blanks. -/
  | keyValue (recordSeparator fieldSeparator : Text)
  /-- Pairs of header and value lines. -/
  | keyRow
  /-- Segments that a pattern matches; its groups are the columns. -/
  | regexp (recordSeparator : Text) (columns : List Text) (pattern : Regex)

namespace Format

/-- The record separator of key and value lines if none is given: an empty line. -/
def defaultBlockSeparator : Text := ['\n', '\n']

/-- The record separator of matched segments if none is given: the end of a line. -/
def defaultSegmentSeparator : Text := ['\n']

/-- The name of a format. -/
def name : Format → String
  | table .. => "table"
  | keyValue .. => "key-value"
  | keyRow => "key-row"
  | regexp .. => "regexp"

/-- The records of a text. -/
def records (data : Text) : Format → Except FormatError (List Record)
  | table columns skip => .ok (Table.records columns skip data)
  | keyValue recordSeparator fieldSeparator =>
    .ok (KeyValue.records recordSeparator fieldSeparator data)
  | keyRow => KeyRow.records data
  | regexp recordSeparator columns pattern =>
    Matching.records recordSeparator columns pattern data

end Format

end Telemetry
