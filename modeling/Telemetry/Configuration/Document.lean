import Telemetry.Configuration.Basic
import Telemetry.Configuration.Format

/-!
# Configuration documents

A document is an array of configurations. It is loaded as a whole or not at all, and the first
problem in the order of its text is reported; namespace patterns are looked at when all else is in
order.

## Main definitions

- `Configuration.FileFields` — the fields of a configuration as far as they have been decoded
- `RawConfiguration.decodeAll` — the raw configurations of a document
- `Configuration.load` — the configurations of a document

## Design notes

A configuration may be written as an object, or as an array of its fields in order. Members of the
object with other keys are skipped.
-/

namespace Telemetry

namespace Configuration

open Json (Draft Fault)

/-- The fields of a file configuration that have been decoded. -/
structure FileFields where
  file : Option Text := none
  metrics : Option (SortedMap Text Text) := none
  tags : Option (SortedMap Text Text) := none
  format : Option Format := none

/-- The key of the pattern of the files. -/
def fileKey : Text := "file".toList

/-- The key of the metrics. -/
def metricsKey : Text := "metrics".toList

/-- The key of the tags. -/
def tagsKey : Text := "tags".toList

/-- The key of the format. -/
def parserKey : Text := "parser".toList

/-- The value of a field that must not have been decoded before. -/
def once {α β : Type} (key : Text) (seen : Option α) (decode : Draft → Decoded β) (d : Draft) :
    Decoded β :=
  if seen.isSome then .error (.shape (.duplicateField key)) else decode d

/-- The fields with one more member decoded; members with other keys are skipped. -/
def FileFields.decode (fs : FileFields) (k : Text) (d : Draft) : Decoded FileFields :=
  if k = fileKey then (once k fs.file decodeText d).map fun v => { fs with file := some v }
  else if k = metricsKey then
    (once k fs.metrics decodeMap d).map fun v => { fs with metrics := some v }
  else if k = tagsKey then (once k fs.tags decodeMap d).map fun v => { fs with tags := some v }
  else if k = parserKey then
    (once k fs.format decodeFormat d).map fun v => { fs with format := some v }
  else (skip d).map fun _ => fs

/-- The fields of a file configuration among the members of an object. -/
def FileFields.ofMembers (fs : FileFields) : List (Option Text × Draft) → Decoded FileFields
  | [] => .ok fs
  | (k, d) :: ms =>
    match decodeKey k with
    | .error e => .error e
    | .ok k =>
      match fs.decode k d with
      | .error e => .error e
      | .ok fs => ofMembers fs ms

/-- The raw configuration of decoded fields, of which the metrics and the tags may be missing. -/
def FileFields.config (fs : FileFields) : Decoded RawConfiguration :=
  match fs.file with
  | none => .error (.shape (.missingField fileKey))
  | some file =>
    match fs.format with
    | none => .error (.shape (.missingField parserKey))
    | some format => .ok ⟨file, fs.metrics.getD .empty, fs.tags.getD .empty, format⟩

/-- A raw configuration from the items of an array. -/
def decodeFields (items : List Draft) (fault : Option Fault) : Decoded RawConfiguration :=
  let missing (n : Nat) : Decoded RawConfiguration := do
    decodeEnd fault
    throw (.shape (.invalidLength n .configuration))
  match items with
  | [] => missing 0
  | d :: ds => do
    let file ← decodeText d
    match ds with
    | [] => missing 3
    | d :: ds => do
      let metrics ← decodeMap d
      match ds with
      | [] => missing 3
      | d :: ds => do
        let tags ← decodeMap d
        match ds with
        | [] => missing 3
        | d :: ds => do
          let format ← decodeFormat d
          match ds with
          | [] => do
            decodeEnd fault
            return ⟨file, metrics, tags, format⟩
          | _ => unreadable .malformed

/-- A raw configuration. -/
def decodeConfiguration : Draft → Decoded RawConfiguration
  | .object members fault => do
    let fields ← FileFields.ofMembers {} members
    decodeEnd fault
    fields.config
  | .array items fault => decodeFields items fault
  | d => mismatch .configuration d

end Configuration

/-- The raw configurations of a document. -/
def RawConfiguration.decodeAll (document : Text) :
    Except ConfigurationError (List RawConfiguration) := do
  let (d, rest) := Json.Draft.ofTokens (Json.tokens document)
  let configs ← Configuration.decodeArray Configuration.decodeConfiguration d
  if rest.isEmpty then return configs else Configuration.unreadable .malformed

/-- The configurations of a document. -/
def Configuration.load (document : Text) : Except ConfigurationError (List Configuration) :=
  match RawConfiguration.decodeAll document with
  | .error e => .error e
  | .ok raws => Configuration.ofRawAll raws

end Telemetry
