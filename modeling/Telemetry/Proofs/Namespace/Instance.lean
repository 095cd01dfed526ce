import Telemetry.Namespace.Binding
import Telemetry.Proofs.Basic

/-!
# Instances of namespace patterns

A bound namespace is an instance of a pattern if it agrees with it segment by segment: static
segments stand as they are, and every placeholder has a value from where its directive says.

## Main definitions

- `Element.Fills` — an element stands for a segment
- `BoundNamespace.IsInstance` — a bound namespace stands for a pattern

## Main statements

- `Namespace.isInstance_of_bind` — binding a pattern gives an instance of it
-/

namespace Telemetry

/-- An element stands for a segment, for a file and a context. A static segment appears unchanged
    and without a name. The element of a placeholder carries its name, and as its directive says a
    component of the path of the file or the text of the variable of that name. -/
inductive Element.Fills (path : Text) (context : Context) : Segment → Element → Prop
  | static (t : Text) : Fills path context (.static t) ⟨t, none⟩
  | component {d : Placeholder} {index : Int64} {value : Text}
      (directive : d.directive = .path index)
      (mem : value ∈ Text.splitChar '/' path) :
      Fills path context (.placeholder d) ⟨value, some d.name⟩
  | variable {d : Placeholder} {v : Value} (directive : d.directive = .variable)
      (known : context d.name = some v) :
      Fills path context (.placeholder d) ⟨v.canonical, some d.name⟩

/-- A bound namespace has one element for each segment of a pattern, which stands for it. -/
def BoundNamespace.IsInstance (b : BoundNamespace) (ns : Namespace) (path : Text)
    (context : Context) : Prop :=
  List.Forall₂ (Element.Fills path context) ns.segments b.elements

theorem mem_of_component? {components : List Text} {index : Int64} {value : Text}
    (h : component? components index = some value) : value ∈ components := by
  simp only [component?] at h
  split at h
  · exact List.mem_of_getElem? h
  · cases h

variable {path : Text} {context : Context}

theorem Placeholder.fills_of_resolve {d : Placeholder} {value : Text}
    (h : d.resolve path context = .ok value) :
    Element.Fills path context (.placeholder d) ⟨value, some d.name⟩ := by
  unfold resolve at h
  cases hd : d.directive with
  | path index =>
    simp only [hd] at h
    cases hc : component? (Text.splitChar '/' path) index with
    | none => simp [hc] at h
    | some v =>
      obtain rfl : v = value := by simpa [hc] using h
      exact .component hd (mem_of_component? hc)
  | _ =>
    simp only [hd] at h
    cases hv : context d.name with
    | none => simp [hv] at h
    | some v =>
      obtain rfl : v.canonical = value := by simpa [hv] using h
      exact .variable hd hv

theorem Segment.fills_of_bind {segment : Segment} {element : Element}
    (h : segment.bind path context = .ok element) : Element.Fills path context segment element := by
  cases segment with
  | static t =>
    cases h
    exact .static t
  | placeholder d =>
    obtain ⟨value, hd, rfl⟩ := exists_of_map_eq_ok h
    exact d.fills_of_resolve hd

theorem Segment.fills_of_bindAll {segments : List Segment} {elements : List Element}
    (h : bindAll path context segments = .ok elements) :
    List.Forall₂ (Element.Fills path context) segments elements := by
  induction segments generalizing elements with
  | nil =>
    cases h
    exact .nil
  | cons segment segments ih =>
    rw [bindAll] at h
    cases hfirst : segment.bind path context with
    | error e => simp [hfirst] at h
    | ok element =>
      rw [hfirst] at h
      obtain ⟨rest, hrest, rfl⟩ := exists_of_map_eq_ok h
      exact .cons (fills_of_bind hfirst) (ih hrest)

/-- Binding a pattern gives an instance of it. -/
theorem Namespace.isInstance_of_bind {ns : Namespace} {b : BoundNamespace}
    (h : ns.bind path context = .ok b) : b.IsInstance ns path context := by
  obtain ⟨elements, helements, rfl⟩ := exists_of_map_eq_ok h
  exact Segment.fills_of_bindAll helements

end Telemetry
