import Telemetry.Decimal.Layout
import Telemetry.Decimal.Reader

/-!
# Namespace patterns

A pattern such as `/proc/cpu/{label}/user` is a path of segments. A segment between braces is a
placeholder: it takes its value from a variable, or, written `{name:path:index}`, from a component
of the path of the file at hand. The first and the last segment are always static.

## Main definitions

- `Segment`, `Namespace` — a pattern as the list of its segments
- `PatternError` — the ways in which a text fails to be a pattern
- `Namespace.parse` — the pattern of a text
- `Namespace.display` — the normal spelling of a pattern
-/

namespace Telemetry

/-- Where a placeholder takes its value from. -/
inductive Directive
  /-- The variable of the same name. -/
  | variable
  /-- A component of the path of the file; negative indexes count from the end. -/
  | path (index : Int64)
  deriving DecidableEq

/-- A segment between braces. -/
structure Placeholder where
  /-- The text before the first colon. -/
  name : Text
  /-- All the text between the braces. -/
  description : Text
  directive : Directive
  deriving DecidableEq

/-- One step of a namespace pattern. -/
inductive Segment
  | static (t : Text)
  | placeholder (d : Placeholder)
  deriving DecidableEq

/-- A namespace pattern. -/
structure Namespace where
  segments : List Segment
  deriving DecidableEq

/-- The ways in which a text fails to be a namespace pattern; each carries the text at fault. -/
inductive PatternError
  | empty
  | noLeadingSlash (pattern : Text)
  | noElements (pattern : Text)
  | placeholderFirst (pattern : Text)
  | placeholderLast (pattern : Text)
  | emptyPlaceholder (pattern : Text)
  | badIndex (description : Text)
  deriving DecidableEq

/-- The wording of an error. -/
def PatternError.message : PatternError → String
  | empty => "namespace pattern cannot be empty"
  | noLeadingSlash p => "namespace pattern must begin with /: '" ++ String.ofList p ++ "'"
  | noElements p => "namespace pattern has no elements: '" ++ String.ofList p ++ "'"
  | placeholderFirst p =>
    "namespace pattern must begin with static element: '" ++ String.ofList p ++ "'"
  | placeholderLast p =>
    "namespace pattern must end with static element: '" ++ String.ofList p ++ "'"
  | emptyPlaceholder p => "empty dynamic element in namespace pattern: '" ++ String.ofList p ++ "'"
  | badIndex d => "invalid path index in dynamic element '" ++ String.ofList d ++ "'"

-- ════════════════════════════════════════════════════════════════════════
-- Directives
-- ════════════════════════════════════════════════════════════════════════

/-- The index that a text denotes: an optional sign and digits, within 64 bits. -/
def readIndex? (t : Text) : Option Int64 :=
  let (negative, ds) := Decimal.takeSign t
  if ds.isEmpty || !ds.all Char.isDigit then none
  else
    let n : Int := if negative then -(Decimal.natural ds : Int) else Decimal.natural ds
    if Int64.minValue.toInt ≤ n ∧ n ≤ Int64.maxValue.toInt then some (Int64.ofInt n) else none

/-- The text before the first colon. -/
def elementName (description : Text) : Text :=
  description.takeWhile (· != ':')

/-- The word that marks a positional directive. -/
def pathWord : Text := ['p', 'a', 't', 'h']

/-- The name and the index of a positional directive, which is a name, `:path:` and an index. -/
def positional? (description : Text) : Option (Text × Int64) :=
  let rest := description.dropWhile (· != ':')
  let mark := ':' :: pathWord ++ [':']
  if mark.isPrefixOf rest then
    (readIndex? (rest.drop mark.length)).map fun i => (elementName description, i)
  else none

/-- Whether a directive has the three parts of a positional one. -/
def looksPositional (description : Text) : Bool :=
  match Text.splitChar ':' description with
  | [_, word, _] => word == pathWord
  | _ => false

/-- The placeholder of the text between two braces. A directive that has the parts of a positional
    one but no index is refused. -/
def Placeholder.parse (pattern description : Text) : Except PatternError Placeholder :=
  if description.isEmpty then .error (.emptyPlaceholder pattern)
  else
    match positional? description with
    | some (name, index) => .ok ⟨name, description, .path index⟩
    | none =>
      if looksPositional description then .error (.badIndex description)
      else .ok ⟨elementName description, description, .variable⟩

-- ════════════════════════════════════════════════════════════════════════
-- Patterns
-- ════════════════════════════════════════════════════════════════════════

/-- The characters that may stand around a segment. -/
def isSegmentPadding (c : Char) : Bool :=
  c == ' ' || c == '\t' || c == '\n'

theorem isSegmentPadding_iff {c : Char} : isSegmentPadding c ↔ c ∈ [' ', '\t', '\n'] := by
  simp [isSegmentPadding, or_assoc]

/-- The parts of a pattern behind its leading slash, without padding and without empty parts. -/
def Namespace.parts (rest : Text) : List Text :=
  ((Text.splitChar '/' rest).map (Text.strip isSegmentPadding)).filter fun part => !part.isEmpty

/-- The segment of a part. -/
def Segment.parse (pattern part : Text) : Except PatternError Segment :=
  match part.braced? with
  | some description => (Placeholder.parse pattern description).map .placeholder
  | none => .ok (.static part)

/-- The segments of a list of parts, or the error of the first part that has none. -/
def Segment.parseAll (pattern : Text) : List Text → Except PatternError (List Segment)
  | [] => .ok []
  | part :: parts =>
    match Segment.parse pattern part with
    | .error e => .error e
    | .ok segment => (parseAll pattern parts).map (segment :: ·)

namespace Namespace

/-- The namespace pattern that a text spells. -/
def parse (pattern : Text) : Except PatternError Namespace :=
  match pattern with
  | [] => .error .empty
  | '/' :: rest =>
    let parts := parts rest
    match parts.head?, parts.getLast? with
    | some first, some last =>
      if first.braced?.isSome then .error (.placeholderFirst pattern)
      else if last.braced?.isSome then .error (.placeholderLast pattern)
      else (Segment.parseAll pattern parts).map fun segments => ⟨segments⟩
    | _, _ => .error (.noElements pattern)
  | _ => .error (.noLeadingSlash pattern)

end Namespace

/-- The normal spelling of a segment. -/
def Segment.display : Segment → Text
  | static t => t
  | placeholder d => '{' :: d.description ++ ['}']

/-- The normal spelling of a pattern: its segments behind slashes. -/
def Namespace.display (ns : Namespace) : Text :=
  '/' :: Text.join ['/'] (ns.segments.map Segment.display)

/-- The placeholders of a pattern, in order. -/
def Namespace.placeholders (ns : Namespace) : List Placeholder :=
  ns.segments.filterMap fun
    | .static _ => none
    | .placeholder d => some d

end Telemetry
