import Telemetry.Configuration.Decoding
import Telemetry.Record.Format

/-!
# Formats in documents

A format is an object with its name among its members, or an array that starts with its name.

## Main definitions

- `Configuration.FormatName`, `Configuration.Field` — the names of the formats and of their fields
- `Configuration.Fields` — the fields of a format as far as they have been decoded
- `Configuration.decodeFormat` — the format of a draft

## Design notes

The name of a format selects what its other fields mean; so they are first read over, wherever they
stand, and then decoded in their order. Fields that a format does not have are not looked at.
-/

namespace Telemetry.Configuration

open Json (Draft Fault)

/-- The names of the formats. -/
inductive FormatName
  | table
  | keyValue
  | keyRow
  | regexp
  deriving DecidableEq

/-- The format of a name. -/
def FormatName.ofText? (t : Text) : Option FormatName :=
  if t = "table".toList then some table
  else if t = "key-value".toList then some keyValue
  else if t = "key-row".toList then some keyRow
  else if t = "regexp".toList then some regexp
  else none

/-- The name of a format. -/
def decodeFormatName : Draft → Decoded FormatName
  | .string (some t) =>
    match FormatName.ofText? t with
    | some n => .ok n
    | none => .error (.shape (.unknownFormat t))
  | d => mismatch .formatName d

/-- The fields that a format may have. -/
inductive Field
  | columns
  | skip
  | recordSeparator
  | fieldSeparator
  | pattern
  deriving DecidableEq

/-- How a field is written. -/
def Field.key : Field → Text
  | columns => "columns".toList
  | skip => "skip".toList
  | recordSeparator => "record_sep".toList
  | fieldSeparator => "field_sep".toList
  | pattern => "pattern".toList

/-- The fields of a format, in the order in which an array gives them. -/
def FormatName.fields : FormatName → List Field
  | table => [.columns, .skip]
  | keyValue => [.recordSeparator, .fieldSeparator]
  | keyRow => []
  | regexp => [.recordSeparator, .columns, .pattern]

/-- The fields of a format that have been decoded. -/
structure Fields where
  columns : Option (List Text) := none
  skip : Option Nat := none
  recordSeparator : Option Text := none
  fieldSeparator : Option Text := none
  pattern : Option Regex := none

/-- Whether a field has been decoded. -/
def Fields.has (fs : Fields) : Field → Bool
  | .columns => fs.columns.isSome
  | .skip => fs.skip.isSome
  | .recordSeparator => fs.recordSeparator.isSome
  | .fieldSeparator => fs.fieldSeparator.isSome
  | .pattern => fs.pattern.isSome

/-- The compiled form of a string. -/
def decodeRegex (d : Draft) : Decoded Regex := do
  let t ← decodeText d
  match Regex.compile? t with
  | some r => return r
  | none => throw (.invalidRegex t)

/-- The fields with one more decoded. -/
def Fields.decode (fs : Fields) (d : Draft) : Field → Decoded Fields
  | .columns => (decodeArray decodeText d).map fun v => { fs with columns := some v }
  | .skip => (decodeSize d).map fun v => { fs with skip := some v }
  | .recordSeparator => (decodeText d).map fun v => { fs with recordSeparator := some v }
  | .fieldSeparator => (decodeText d).map fun v => { fs with fieldSeparator := some v }
  | .pattern => (decodeRegex d).map fun v => { fs with pattern := some v }

/-- The fields of a format among the members of an object. -/
def Fields.ofMembers (name : FormatName) (fs : Fields) :
    List (Text × Draft) → Decoded Fields
  | [] => .ok fs
  | (k, d) :: ms =>
    match name.fields.find? fun f => f.key == k with
    | none => ofMembers name fs ms
    | some f =>
      if fs.has f then .error (.shape (.duplicateField k))
      else
        match fs.decode d f with
        | .error e => .error e
        | .ok fs => ofMembers name fs ms

/-- The fields of a format from the items of an array. -/
def Fields.ofItems (fs : Fields) : List Field → List Draft → Decoded Fields
  | [], _ => .ok fs
  | _, [] => .ok fs
  | f :: rest, d :: ds =>
    match fs.decode d f with
    | .error e => .error e
    | .ok fs => ofItems fs rest ds

/-- The format of a name with its fields, where `missing` is the error if there is no pattern. -/
def Fields.format (fs : Fields) (missing : ShapeError) : FormatName → Decoded Format
  | .table => .ok (.table (fs.columns.getD []) (fs.skip.getD 0))
  | .keyValue =>
    .ok (.keyValue (fs.recordSeparator.getD Format.defaultBlockSeparator)
      (fs.fieldSeparator.getD []))
  | .keyRow => .ok .keyRow
  | .regexp =>
    match fs.pattern with
    | some p =>
      .ok (.regexp (fs.recordSeparator.getD Format.defaultSegmentSeparator)
        (fs.columns.getD []) p)
    | none => .error (.shape missing)

/-- The key of the name of a format. -/
def formatKey : Text := "format".toList

/-- The members of an object that describes a format: its name as soon as it is met, and the other
    members, which are read over. -/
def splitMembers (depth : Nat) (name : Option FormatName) :
    List (Option Text × Draft) → Decoded (Option FormatName × List (Text × Draft))
  | [] => .ok (name, [])
  | (k, d) :: ms =>
    match decodeKey k with
    | .error e => .error e
    | .ok k =>
      if k = formatKey then
        if name.isSome then .error (.shape (.duplicateField k))
        else
          match decodeFormatName d with
          | .error e => .error e
          | .ok n => splitMembers depth (some n) ms
      else
        match check depth d with
        | .error e => .error e
        | .ok _ => (splitMembers depth name ms).map fun (n, rest) => (n, (k, d) :: rest)

/-- The depth to which containers may be nested inside the fields of a format: 127 levels in all,
    three of which are the document, the file configuration and the format. -/
def fieldDepth : Nat := 124

/-- A format. -/
def decodeFormat : Draft → Decoded Format
  | .object members fault => do
    let (name, members) ← splitMembers fieldDepth none members
    decodeEnd fault
    match name with
    | none => throw (.shape (.missingField formatKey))
    | some name =>
      let fields ← Fields.ofMembers name {} members
      fields.format (.missingField Field.pattern.key) name
  | .array items fault =>
    match items with
    | [] => do
      decodeEnd fault
      throw (.shape (.missingField formatKey))
    | d :: ds => do
      let name ← decodeFormatName d
      checkItems fieldDepth ds
      decodeEnd fault
      let wanted := name.fields.length
      let fields ← Fields.ofItems {} name.fields ds
      let format ← fields.format (.invalidLength 2 .regexp) name
      if ds.length ≤ wanted then return format
      else throw (.shape (.invalidLength ds.length (.items wanted)))
  | d => mismatch .format d

end Telemetry.Configuration
