import Telemetry.Regex.Syntax
import Telemetry.Regex.Search

/-!
# Compiled patterns

## Main definitions

- `Regex` — a pattern with its program
- `Regex.compile?` — the compiled form of a pattern text
- `Regex.groups?` — what the groups of a pattern match in a text

## Main statements

- `Regex.length_of_groups?` — a match reports every group of its pattern
-/

namespace Telemetry

/-- A compiled pattern. -/
structure Regex where
  /-- The text of the pattern. -/
  source : Text
  groupCount : Nat
  program : Regex.Program

namespace Regex

/-- The compiled form of a pattern, if it is well-formed. -/
def compile? (source : Text) : Option Regex :=
  (Node.parse? source).map fun n => ⟨source, n.groupCount, n.program⟩

/-- The part of a text between two noted positions. -/
def slice (t : Text) (notes : Notes) (group : Nat) : Option Text :=
  match notes[2 * group]?, notes[2 * group + 1]? with
  | some (some start), some (some stop) => some ((t.drop start).take (stop - start))
  | _, _ => none

/-- What each group of a pattern matches at its leftmost match in a text, in order; a group that
    takes no part in the match has nothing. -/
def groups? (r : Regex) (t : Text) : Option (List (Option Text)) :=
  (r.program.search (2 * r.groupCount + 2) t).map fun notes =>
    (List.range r.groupCount).map fun i => slice t notes (i + 1)

/-- A match reports every group of its pattern. -/
theorem length_of_groups? {r : Regex} {t : Text} {groups : List (Option Text)}
    (h : r.groups? t = some groups) : groups.length = r.groupCount := by
  obtain ⟨notes, _, rfl⟩ := Option.map_eq_some_iff.1 h
  simp

end Regex

end Telemetry
