import Telemetry.Expression.Evaluation
import Telemetry.Namespace.Pattern

/-!
# Binding of namespaces

A pattern is bound for one file and one context: every placeholder becomes an element with a value
and the name it was bound under.

## Main definitions

- `Element`, `BoundNamespace` — a namespace with concrete values
- `BindError` — the ways in which a placeholder stays without value
- `Placeholder.resolve` — the value of a placeholder
- `Namespace.bind` — the namespace with all its values
-/

namespace Telemetry

/-- One step of a bound namespace; the value of a placeholder remembers its name. -/
structure Element where
  value : Text
  name : Option Text
  deriving DecidableEq

/-- A namespace in which every element has a value. -/
structure BoundNamespace where
  elements : List Element
  deriving DecidableEq

/-- The ways in which a placeholder stays without value. -/
inductive BindError
  | indexOutOfBounds (index : Int64) (path : Text)
  | noValue (name : Text)
  deriving DecidableEq

/-- The wording of an error. -/
def BindError.message : BindError → String
  | indexOutOfBounds index path =>
    "index '" ++ String.ofList (Decimal.integer index.toInt) ++ "' out of bounds: '" ++
      String.ofList path ++ "'"
  | noValue name => "no value for dynamic element '" ++ String.ofList name ++ "'"

/-- The component of a list at an index, where negative indexes count from the end. -/
def component? (components : List Text) (index : Int64) : Option Text :=
  let position := if index.toInt < 0 then components.length + index.toInt else index.toInt
  match position with
  | .ofNat n => components[n]?
  | .negSucc _ => none

/-- The value of a placeholder for a file and a context. -/
def Placeholder.resolve (d : Placeholder) (path : Text) (context : Context) :
    Except BindError Text :=
  match d.directive with
  | .path index =>
    match component? (Text.splitChar '/' path) index with
    | some value => .ok value
    | none => .error (.indexOutOfBounds index path)
  | .variable =>
    match context d.name with
    | some value => .ok value.canonical
    | none => .error (.noValue d.name)

/-- The element of a segment for a file and a context. -/
def Segment.bind (path : Text) (context : Context) : Segment → Except BindError Element
  | static t => .ok ⟨t, none⟩
  | placeholder d => (d.resolve path context).map fun value => ⟨value, some d.name⟩

/-- The elements of a list of segments, or the error of the first one without value. -/
def Segment.bindAll (path : Text) (context : Context) :
    List Segment → Except BindError (List Element)
  | [] => .ok []
  | segment :: segments =>
    match segment.bind path context with
    | .error e => .error e
    | .ok element => (bindAll path context segments).map (element :: ·)

/-- The namespace of a pattern for a file and a context. -/
def Namespace.bind (ns : Namespace) (path : Text) (context : Context) :
    Except BindError BoundNamespace :=
  (Segment.bindAll path context ns.segments).map fun elements => ⟨elements⟩

/-- The text of a bound namespace: its values behind slashes. -/
def BoundNamespace.display (ns : BoundNamespace) : Text :=
  '/' :: Text.join ['/'] (ns.elements.map Element.value)

end Telemetry
