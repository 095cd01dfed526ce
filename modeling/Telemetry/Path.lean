import Telemetry.SortedMap
import Telemetry.Text.Basic

/-!
# Paths

A path is a text whose components stand between slashes. Two paths are the same if they have the
same components, whatever their spelling, and paths are ordered by their components.

## Main definitions

- `Component` — a component of a path, with its order
- `Path` — a path as it is spelled
- `Path.components` — the components of a path
- `Path.append` — a path with one more component
-/

namespace Telemetry

/-- A component of a path. -/
inductive Component
  | root
  /-- The directory at hand; it counts only at the start of a path. -/
  | current
  | parent
  | normal (name : Text)
  deriving DecidableEq, Repr

namespace Component

/-- The place of a kind of component in the order: the root, the directory at hand, the parent, and
    then names. -/
def rank : Component → Nat
  | root => 0
  | current => 1
  | parent => 2
  | normal _ => 3

/-- The name of a component, if it is one. -/
def name : Component → Text
  | normal n => n
  | _ => []

instance : LT Component where
  lt a b := a.rank < b.rank ∨ (a.rank = b.rank ∧ a.name < b.name)

instance : DecidableLT Component := fun a b =>
  inferInstanceAs (Decidable (a.rank < b.rank ∨ (a.rank = b.rank ∧ a.name < b.name)))

theorem lt_iff {a b : Component} :
    a < b ↔ a.rank < b.rank ∨ (a.rank = b.rank ∧ a.name < b.name) := Iff.rfl

theorem eq_of_rank_name {a b : Component} (h : a.rank = b.rank) (h' : a.name = b.name) : a = b := by
  cases a <;> cases b <;> simp_all [rank, name]

instance : KeyOrder Component where
  irrefl a h := by
    rcases lt_iff.1 h with h | ⟨_, h⟩
    · exact Nat.lt_irrefl _ h
    · exact KeyOrder.irrefl _ h
  trans {a b c} h h' := by
    rw [lt_iff] at *
    rcases h with h | ⟨h₁, h₂⟩
    · rcases h' with h' | ⟨h₁', _⟩
      · exact .inl (Nat.lt_trans h h')
      · exact .inl (h₁' ▸ h)
    · rcases h' with h' | ⟨h₁', h₂'⟩
      · exact .inl (h₁ ▸ h')
      · exact .inr ⟨h₁.trans h₁', KeyOrder.trans h₂ h₂'⟩
  eq_of_not_lt {a b} h h' := by
    rw [lt_iff, not_or, not_and] at h h'
    have hr : a.rank = b.rank := KeyOrder.eq_of_not_lt h.1 h'.1
    exact eq_of_rank_name hr (KeyOrder.eq_of_not_lt (h.2 hr) (h'.2 hr.symm))

end Component

/-- A path as it is spelled. -/
abbrev Path := Text

namespace Path

/-- The component of a piece between slashes: nothing for an empty piece, and for a dot only at the
    start. -/
def component? (first : Bool) (piece : Text) : Option Component :=
  if piece = [] then none
  else if piece = ['.'] then if first then some .current else none
  else if piece = ['.', '.'] then some .parent
  else some (.normal piece)

/-- The components of a path. Repeated and trailing slashes and dots between slashes do not
    count. -/
def components (p : Path) : List Component :=
  match p with
  | '/' :: rest => .root :: (Text.splitChar '/' rest).filterMap (component? false)
  | p =>
    match Text.splitChar '/' p with
    | [] => []
    | first :: rest => (component? true first).toList ++ rest.filterMap (component? false)

/-- A path with one more component behind it. -/
def append (p : Path) (name : Text) : Path :=
  if p.getLast? = some '/' ∨ p = [] then p ++ name else p ++ '/' :: name

end Path

end Telemetry
