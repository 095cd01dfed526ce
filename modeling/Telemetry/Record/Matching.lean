import Telemetry.Record.Basic
import Telemetry.Regex.Pattern

/-!
# Records by pattern

A text is cut into segments, and each segment that a pattern matches is a record: the groups of the
pattern are its columns. Segments that do not match are passed over.

## Main definitions

- `Matching.row` — the record of a segment
- `Matching.records` — the records of a text
-/

namespace Telemetry.Matching

/-- The record of what the groups matched; a group that took no part gives the empty token. -/
def row (columns : List Text) (groups : List (Option Text)) : Record :=
  Record.ofColumns columns (groups.map fun group => group.getD [])

/-- The records of a list of segments, of which the first has a given number. A match with another
    number of groups than there are columns is an error. -/
def segments (columns : List Text) (matcher : Text → Option (List (Option Text))) (number : Nat) :
    List Text → Except FormatError (List Record)
  | [] => .ok []
  | segment :: rest =>
    match matcher segment with
    | none => segments columns matcher (number + 1) rest
    | some groups =>
      if groups.length = columns.length then
        (segments columns matcher (number + 1) rest).map (row columns groups :: ·)
      else .error (.groupCount number columns.length groups.length)

/-- The records of a text. -/
def records (separator : Text) (columns : List Text) (pattern : Regex) (data : Text) :
    Except FormatError (List Record) :=
  segments columns pattern.groups? 0 (Record.split separator data)

end Telemetry.Matching
