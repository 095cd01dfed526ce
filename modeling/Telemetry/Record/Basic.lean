import Telemetry.SortedMap
import Telemetry.Value

/-!
# Records

A record is one logical row of a file: values under the names of fields.

## Main definitions

- `Record` — a map from field names to values
- `Record.ofColumns` — the record of a row under given column names
- `FormatError` — the ways in which a text fails to have the shape of its format
- `Record.split` — the segments of a text, one for each record
-/

namespace Telemetry

/-- One row of a file, by field names. -/
abbrev Record := SortedMap Text Value

/-- The record of the raw tokens of a row under column names; where a name comes twice, the last of
    its tokens counts. -/
def Record.ofColumns (columns tokens : List Text) : Record :=
  SortedMap.ofList (columns.zip (tokens.map Value.parse))

/-- The ways in which a text fails to have the shape of its format. Lines and records count from
    zero. -/
inductive FormatError
  | oddLineCount
  | emptyLine (line : Nat)
  | columnCount (line headers values : Nat)
  | idMismatch (line : Nat) (header value : Text)
  | groupCount (record columns groups : Nat)
  deriving DecidableEq

/-- The wording of an error. -/
def FormatError.message : FormatError → String
  | oddLineCount => "key-row format requires even number of lines"
  | emptyLine line => "line " ++ toString line ++ ", empty lines are not allowed"
  | columnCount line headers values =>
    "line " ++ toString line ++ ", different number of columns: '" ++ toString headers ++
      "' != '" ++ toString values ++ "'"
  | idMismatch line header value =>
    "line " ++ toString line ++ ", rows ids do not match: '" ++ String.ofList header ++ "' != '" ++
      String.ofList value ++ "'"
  | groupCount record columns groups =>
    "record " ++ toString record ++ ", different number of columns: '" ++ toString columns ++
      "' != '" ++ toString groups ++ "'"

/-- The segments of a text, one for each record. An empty separator leaves the text whole. -/
def Record.split (separator data : Text) : List Text :=
  if separator.isEmpty then [data] else Text.splitText separator data

/-- A text without line feeds at both ends. -/
def Record.trimLines (data : Text) : Text :=
  data.strip (· == '\n')

end Telemetry
