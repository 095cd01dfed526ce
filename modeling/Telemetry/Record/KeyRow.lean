import Telemetry.Record.Basic
import Telemetry.Text.Blank

/-!
# Pairs of header and value lines

Every two lines form a record. Both start with the same identifier; the other fields of the first
line name those of the second.

## Main definitions

- `KeyRow.pair` — the record of two lines
- `KeyRow.records` — the records of a text
-/

namespace Telemetry.KeyRow

/-- An identifier without the colons around it. -/
def identifier (token : Text) : Text :=
  token.strip (· == ':')

/-- The name of the field that holds the identifier. -/
def idField : Text := ['i', 'd']

/-- The record of two lines, of which the first has a given number. -/
def pair (line : Nat) (headerLine valueLine : Text) : Except FormatError Record :=
  let headers := headerLine.fields
  let values := valueLine.fields
  if headers.isEmpty then .error (.emptyLine line)
  else if headers.length ≠ values.length then
    .error (.columnCount line headers.length values.length)
  else
    match headers, values with
    | header :: headers, value :: values =>
      if identifier header = identifier value then
        .ok (SortedMap.ofList
          ((idField, .text (identifier header)) :: headers.zip (values.map Value.parse)))
      else .error (.idMismatch line (identifier header) (identifier value))
    | _, _ => .error (.emptyLine line)

/-- The records of a list of lines taken two by two, of which the first has a given number. -/
def pairs (line : Nat) : List Text → Except FormatError (List Record)
  | header :: value :: lines =>
    match pair line header value with
    | .error e => .error e
    | .ok r => (pairs (line + 2) lines).map (r :: ·)
  | _ => .ok []

/-- The records of a text, whose line feeds at both ends do not count. -/
def records (data : Text) : Except FormatError (List Record) :=
  let lines := (Record.trimLines data).lines
  if lines.length % 2 ≠ 0 then .error .oddLineCount else pairs 0 lines

end Telemetry.KeyRow
