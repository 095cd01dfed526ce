import Telemetry.Record.Basic
import Telemetry.Text.Blank

/-!
# Tables

Blank-separated columns, one row per line. The column names are given, or else stand in the first
line behind the skipped ones. Rows with another number of fields than there are columns are passed
over.

## Main definitions

- `Table.row?` — the record of a line
- `Table.records` — the records of a text
-/

namespace Telemetry.Table

/-- The record of a line, if it has a field for every column and no more. -/
def row? (columns : List Text) (line : Text) : Option Record :=
  let tokens := line.fields
  if tokens.length = columns.length then some (Record.ofColumns columns tokens) else none

/-- The records of the lines behind the skipped ones. Without column names the first line gives
    them. -/
def rows (columns : List Text) (lines : List Text) : List Record :=
  match columns, lines with
  | [], [] => []
  | [], header :: lines => lines.filterMap (row? header.fields)
  | columns, lines => lines.filterMap (row? columns)

/-- The records of a text, whose line feeds at both ends do not count. -/
def records (columns : List Text) (skip : Nat) (data : Text) : List Record :=
  rows columns ((Record.trimLines data).lines.drop skip)

end Telemetry.Table
