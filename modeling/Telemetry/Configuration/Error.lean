import Telemetry.Json.Token
import Telemetry.Namespace.Pattern
import Telemetry.Regex.CharClass
import Telemetry.Regex.Unicode.Addition

/-!
# Errors of configuration documents

## Main definitions

- `Configuration.Found`, `Configuration.Wanted` — what a document holds at a place, and what should
  stand there
- `Configuration.ShapeError` — the ways in which a well-formed document has the wrong shape
- `ConfigurationError` — the ways in which a document fails to be a configuration
- `ConfigurationError.message` — their wording
-/

namespace Telemetry

namespace Configuration

/-- What a document holds at a place. -/
inductive Found
  | null
  | boolean (b : Bool)
  | integer (n : Int)
  | double (x : Float)
  | string (t : Text)
  | sequence
  | map
  deriving DecidableEq

/-- What should stand at a place. -/
inductive Wanted
  | sequence
  | map
  | string
  | size
  | configuration
  | format
  | formatName
  deriving DecidableEq

/-- The number of items that a list should have. -/
inductive WantedLength
  /-- The fields of a file configuration. -/
  | configuration
  /-- The fields of a format by pattern. -/
  | regexp
  /-- A number of fields and no more. -/
  | items (n : Nat)
  deriving DecidableEq

/-- The ways in which a well-formed document has the wrong shape. -/
inductive ShapeError
  | invalidType (found : Found) (wanted : Wanted)
  | invalidValue (found : Found) (wanted : Wanted)
  | invalidLength (found : Nat) (wanted : WantedLength)
  | missingField (name : Text)
  | duplicateField (name : Text)
  | unknownFormat (name : Text)
  deriving DecidableEq

-- ════════════════════════════════════════════════════════════════════════
-- Quoted texts
-- ════════════════════════════════════════════════════════════════════════

/-- The digits of a number to the base sixteen. -/
def hexDigits (n : Nat) : Text :=
  Nat.toDigits 16 n

/-- The characters that a quoted text shows by their code points: what has no glyph, and what joins
    the glyph before it. -/
def hidden : Unit → CharSet := fun _ =>
  (((CharClass.categories ["cc", "cf", "co", "zl", "zp", "zs"]).diff (.single ' ')).union
    ((CharClass.unassigned ()).diff (.parse Unicode.addedVisible))).union
      ((CharClass.graphemeExtend ()).union (CharClass.listed "di"))

/-- The spelling of a character in a quoted text. -/
def quoteChar (c : Char) : Text :=
  if c = '"' ∨ c = '\\' then ['\\', c]
  else if c = '\n' then ['\\', 'n']
  else if c = '\r' then ['\\', 'r']
  else if c = '\t' then ['\\', 't']
  else if c = '\x00' then ['\\', '0']
  else if 0x20 ≤ c.toNat ∧ c.toNat < 0x7F then [c]
  else if (hidden ()).contains c then '\\' :: 'u' :: '{' :: hexDigits c.toNat ++ ['}']
  else [c]

/-- A text between quotes. -/
def quote (t : Text) : Text :=
  '"' :: t.flatMap quoteChar ++ ['"']

-- ════════════════════════════════════════════════════════════════════════
-- Wording
-- ════════════════════════════════════════════════════════════════════════

/-- The wording of what a document holds. -/
def Found.describe : Found → String
  | null => "null"
  | boolean b => "boolean `" ++ toString b ++ "`"
  | integer n => "integer `" ++ toString n ++ "`"
  | double x => "floating point `" ++ String.ofList (Decimal.document.write x) ++ "`"
  | string t => "string " ++ String.ofList (quote t)
  | sequence => "sequence"
  | map => "map"

/-- The wording of what a document should hold. -/
def Wanted.describe : Wanted → String
  | sequence => "a sequence"
  | map => "a map"
  | string => "a string"
  | size => "usize"
  | configuration => "struct RawFileConfig"
  | format => "internally tagged enum ParserConfig"
  | formatName => "variant identifier"

/-- The wording of a number of items. -/
def WantedLength.describe : WantedLength → String
  | configuration => "struct RawFileConfig with 4 elements"
  | regexp => "struct variant ParserConfig::Regexp with 3 elements"
  | items n => if n = 1 then "1 element in sequence" else toString n ++ " elements in sequence"

/-- The wording of an error. -/
def ShapeError.message : ShapeError → String
  | invalidType found wanted =>
    "invalid type: " ++ found.describe ++ ", expected " ++ wanted.describe
  | invalidValue found wanted =>
    "invalid value: " ++ found.describe ++ ", expected " ++ wanted.describe
  | invalidLength found wanted =>
    "invalid length " ++ toString found ++ ", expected " ++ wanted.describe
  | missingField name => "missing field `" ++ String.ofList name ++ "`"
  | duplicateField name => "duplicate field `" ++ String.ofList name ++ "`"
  | unknownFormat name =>
    "unknown variant `" ++ String.ofList name ++
      "`, expected one of `table`, `key-value`, `key-row`, `regexp`"

end Configuration

/-- The ways in which a document fails to be a configuration. -/
inductive ConfigurationError
  /-- It is no JSON, or ends too early. -/
  | unreadable (failure : Json.Failure)
  | invalidRegex (pattern : Text)
  | shape (error : Configuration.ShapeError)
  /-- A namespace pattern of the configuration of some files is at fault. -/
  | pattern (file : Text) (error : PatternError)
  deriving DecidableEq

/-- The wording of an error. -/
def ConfigurationError.message : ConfigurationError → String
  | unreadable .malformed => "malformed configuration: not well-formed"
  | unreadable .ended => "malformed configuration: unexpected end of document"
  | invalidRegex p =>
    "malformed configuration: invalid regular expression '" ++ String.ofList p ++ "'"
  | shape e => "malformed configuration: " ++ e.message
  | pattern file e => "file '" ++ String.ofList file ++ "': " ++ e.message

end Telemetry
