import Telemetry.Timestamp

/-!
# Clocks

A clock is read many times during a collection, and every reading may show another instant.

## Main definitions

- `Clock` — the instants that the next readings show
- `Clock.fixed` — the clock that stands still
- `Clock.now`, `Clock.after` — what the next reading shows, and the clock after some readings
- `Clock.readings` — what a number of readings show
-/

namespace Telemetry

/-- A clock, as the instants that its next readings show, one after the other. -/
structure Clock where
  reading : Nat → Timestamp

namespace Clock

/-- The clock that stands still. -/
def fixed (t : Timestamp) : Clock := ⟨fun _ => t⟩

/-- An instant stands for the clock that stands still at it. -/
instance : Coe Timestamp Clock := ⟨fixed⟩

/-- What the next reading shows. -/
def now (c : Clock) : Timestamp := c.reading 0

/-- The clock after a number of readings. -/
def after (c : Clock) (n : Nat) : Clock := ⟨fun k => c.reading (n + k)⟩

/-- What the next readings show, in order. -/
def readings (c : Clock) (n : Nat) : List Timestamp := (List.range n).map c.reading

@[simp] theorem after_zero (c : Clock) : c.after 0 = c := by simp [after]

@[simp] theorem after_after (c : Clock) (m n : Nat) : (c.after m).after n = c.after (m + n) := by
  simp [after, Nat.add_assoc]

@[simp] theorem after_fixed (t : Timestamp) (n : Nat) : (fixed t).after n = fixed t := rfl

theorem readings_add (c : Clock) (m n : Nat) :
    c.readings (m + n) = c.readings m ++ (c.after m).readings n := by
  simp [readings, after, List.range_add, Function.comp_def]

end Clock

end Telemetry
