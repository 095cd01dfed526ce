import Telemetry.Collection
import Telemetry.Proofs.SortedMap

/-!
# A record over default variables

At a record a name stands for the field of that name, and for the default variable only if there is
no such field. Writing the fields of the record over the default variables comes to the same.

## Main definitions

- `Record.fieldOrDefault` — the field of a name, and otherwise the default variable
- `Record.over` — default variables with the fields of a record written over them

## Main statements

- `Record.context_eq_fieldOrDefault` — the context of a record is this lookup
- `Record.get?_over` — so are the answers of the record written over the default variables
-/

namespace Telemetry

/-- What a name stands for at a record: the field of that name, and without one the default
    variable. -/
def Record.fieldOrDefault (r defaults : Record) : Context :=
  fun name =>
    match r.get? name with
    | some field => some field
    | none => defaults.get? name

/-- Default variables with the fields of a record written over them. -/
def Record.over (r defaults : Record) : Record :=
  r.toList.foldl (fun m e => m.insert e.1 e.2) defaults

variable {r : Record} {name : Text}

theorem Record.fieldOrDefault_of_get? {v : Value} (h : r.get? name = some v) (defaults : Record) :
    r.fieldOrDefault defaults name = some v := by
  rw [fieldOrDefault, h]

/-- A field of a record hides the default variable of its name. -/
theorem Record.fieldOrDefault_eq_of_contains (h : r.contains name) (defaults defaults' : Record) :
    r.fieldOrDefault defaults name = r.fieldOrDefault defaults' name := by
  obtain ⟨v, hv⟩ := Option.isSome_iff_exists.mp h
  rw [fieldOrDefault_of_get? hv, fieldOrDefault_of_get? hv]

theorem Record.fieldOrDefault_congr {defaults defaults' : Record}
    (h : defaults.get? name = defaults'.get? name) (r : Record) :
    r.fieldOrDefault defaults name = r.fieldOrDefault defaults' name := by
  simp only [fieldOrDefault, h]

theorem Record.fieldOrDefault_eq_or (r defaults : Record) (name : Text) :
    r.fieldOrDefault defaults name = (r.get? name).or (defaults.get? name) := by
  rw [fieldOrDefault]
  cases r.get? name <;> rfl

/-- In the context of a record names stand for its fields, and otherwise for default variables. -/
theorem Record.context_eq_fieldOrDefault (r defaults : Record) :
    r.context defaults = r.fieldOrDefault defaults := by
  funext name
  rw [fieldOrDefault_eq_or, context, Context.withFallback]

/-- Writing a record over default variables is as good as looking at it first. -/
theorem Record.get?_over (r defaults : Record) :
    (r.over defaults).get? = r.fieldOrDefault defaults := by
  funext name
  apply Option.ext
  intro v
  have hkeys : name ∈ r.toList.map Prod.fst ↔ ∃ w, r.get? name = some w := by
    simp [SortedMap.get?_eq_some_iff]
  rw [Record.over, SortedMap.get?_foldl_insert _ r.nodup_keys, ← r.get?_eq_some_iff, hkeys,
    fieldOrDefault]
  cases r.get? name <;> simp

end Telemetry
