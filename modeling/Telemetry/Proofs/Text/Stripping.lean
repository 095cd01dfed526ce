import Mathlib.Data.List.DropRight
import Telemetry.Text.Basic

/-!
# Laws of stripping

A stripped text is the text itself exactly if no character of the class stands at either end, and
this is so for every text that has been stripped. Characters of the class around a text do not
change what stripping leaves of it.

## Main definitions

- `Text.StripsTo` — what is left of a text without the padding around it

## Main statements

- `Text.strip_eq_self_iff` — what stripping leaves alone
- `Text.strip_strip` — stripping twice is stripping once
- `Text.strip_padded` — padding is what stripping takes away
- `Text.strip_eq_iff` — stripping leaves just this
-/

namespace Telemetry.Text

variable {drop : Char → Bool} {t : Text}

theorem stripEnd_eq_rdropWhile (drop : Char → Bool) (t : Text) :
    stripEnd drop t = t.rdropWhile drop :=
  rfl

theorem dropWhile_eq_self_iff :
    t.dropWhile drop = t ↔ ∀ c ∈ t.head?, drop c = false := by
  cases t with
  | nil => simp
  | cons c t => simp [List.dropWhile_eq_self_iff]

theorem stripEnd_eq_self_iff :
    stripEnd drop t = t ↔ ∀ c ∈ t.getLast?, drop c = false := by
  rw [stripEnd_eq_rdropWhile, List.rdropWhile_eq_self_iff]
  constructor
  · intro h c hc
    have hne : t ≠ [] := by
      rintro rfl
      simp at hc
    obtain rfl : t.getLast hne = c := by
      simpa [List.getLast?_eq_some_getLast hne] using hc
    exact Bool.not_eq_true _ ▸ h hne
  · intro h hne
    rw [h _ (List.getLast?_eq_some_getLast hne)]
    exact Bool.false_ne_true

/-- Stripping the end of a text leaves its first character, unless nothing is left. -/
theorem head?_stripEnd {c : Char} (h : c ∈ (stripEnd drop t).head?) : c ∈ t.head? := by
  obtain ⟨rest, hrest⟩ : stripEnd drop t <+: t := List.rdropWhile_prefix drop _
  rw [← hrest, List.head?_append_of_ne_nil]
  · exact h
  · rintro hnil
    rw [hnil] at h
    cases h

/-- Stripping leaves a text alone exactly if neither of its ends is of the class. -/
theorem strip_eq_self_iff :
    strip drop t = t ↔
      (∀ c ∈ t.head?, drop c = false) ∧ ∀ c ∈ t.getLast?, drop c = false := by
  rw [← dropWhile_eq_self_iff, ← stripEnd_eq_self_iff]
  constructor
  · intro h
    -- Both steps can only shorten the text, so neither of them has.
    have hfront : strip drop t <+: t.dropWhile drop := List.rdropWhile_prefix drop _
    have hback : t.dropWhile drop <:+ t := List.dropWhile_suffix drop
    have hlength : (t.dropWhile drop).length = t.length := by
      have := hfront.length_le
      have := hback.length_le
      rw [h] at *
      omega
    have hstart : t.dropWhile drop = t := hback.eq_of_length hlength
    refine ⟨hstart, ?_⟩
    rwa [strip, hstart] at h
  · rintro ⟨hstart, hend⟩
    rw [strip, hstart, hend]

/-- What stripping leaves has nothing more to strip. -/
theorem strip_strip (drop : Char → Bool) (t : Text) :
    strip drop (strip drop t) = strip drop t := by
  rw [strip_eq_self_iff]
  constructor
  · intro c hc
    have hhead : c ∈ (t.dropWhile drop).head? := head?_stripEnd hc
    have hstart : (t.dropWhile drop).dropWhile drop = t.dropWhile drop :=
      List.dropWhile_idempotent drop t
    exact dropWhile_eq_self_iff.mp hstart c hhead
  · have hend : stripEnd drop (stripEnd drop (t.dropWhile drop)) =
        stripEnd drop (t.dropWhile drop) :=
      List.rdropWhile_idempotent drop _
    exact stripEnd_eq_self_iff.mp hend

theorem mem_of_mem_strip {c : Char} (h : c ∈ strip drop t) : c ∈ t := by
  have hfront : strip drop t <+: t.dropWhile drop := List.rdropWhile_prefix drop _
  exact (List.dropWhile_suffix drop).subset (hfront.subset h)

theorem count_dropWhile {c : Char} (h : drop c = false) (t : Text) :
    (t.dropWhile drop).count c = t.count c := by
  have hdropped : c ∉ t.takeWhile drop := by
    intro hc
    rw [List.mem_takeWhile_imp hc] at h
    cases h
  conv_rhs => rw [← List.takeWhile_append_dropWhile (p := drop) (l := t)]
  rw [List.count_append, List.count_eq_zero.mpr hdropped, Nat.zero_add]

/-- Stripping takes no character away that is not of the class. -/
theorem count_strip {c : Char} (h : drop c = false) (t : Text) :
    (strip drop t).count c = t.count c := by
  rw [strip, stripEnd, List.count_reverse, count_dropWhile h, List.count_reverse,
    count_dropWhile h]

/-- Characters of the class around a text do not change what stripping leaves of it. -/
theorem strip_padded {before after : Text} (hbefore : ∀ c ∈ before, drop c)
    (hafter : ∀ c ∈ after, drop c) : strip drop (before ++ t ++ after) = strip drop t := by
  have hstart : (before ++ t ++ after).dropWhile drop = (t ++ after).dropWhile drop := by
    rw [List.append_assoc, List.dropWhile_append_of_pos hbefore]
  have hnone : after.dropWhile drop = [] := List.dropWhile_eq_nil_iff.mpr hafter
  rw [strip, strip, hstart, List.dropWhile_append]
  split
  case isTrue hempty =>
    rw [List.isEmpty_iff] at hempty
    rw [hnone, hempty]
  case isFalse =>
    have hreverse : ∀ c ∈ after.reverse, drop c := fun c hc => hafter c (List.mem_reverse.mp hc)
    rw [stripEnd, List.reverse_append, List.dropWhile_append_of_pos hreverse]
    rfl

/-- What is left of a text without its padding: the text is padding, what is left, and padding
    again, and what is left has no padding at its own ends. -/
structure StripsTo (padding : Char → Prop) (t kept : Text) : Prop where
  padded : ∃ before after, t = before ++ kept ++ after ∧ (∀ c ∈ before, padding c) ∧
    ∀ c ∈ after, padding c
  head_bare : ∀ c ∈ kept.head?, ¬ padding c
  last_bare : ∀ c ∈ kept.getLast?, ¬ padding c

/-- Stripping leaves of a text what is left without the characters of the class around it. -/
theorem strip_eq_iff {padding : Char → Prop} (hclass : ∀ c, drop c = true ↔ padding c)
    {kept : Text} : strip drop t = kept ↔ StripsTo padding t kept := by
  have hbare : ∀ c, drop c = false ↔ ¬ padding c := fun c => by
    rw [← hclass, Bool.not_eq_true]
  constructor
  · rintro rfl
    obtain ⟨hhead, hlast⟩ := strip_eq_self_iff.mp (strip_strip drop t)
    refine ⟨⟨t.takeWhile drop, (t.dropWhile drop).rtakeWhile drop, ?_, ?_, ?_⟩,
      fun c hc => (hbare c).mp (hhead c hc), fun c hc => (hbare c).mp (hlast c hc)⟩
    · rw [List.append_assoc, strip, stripEnd_eq_rdropWhile, List.rdropWhile_append_rtakeWhile,
        List.takeWhile_append_dropWhile]
    · exact fun c hc => (hclass c).mp (List.mem_takeWhile_imp hc)
    · exact fun c hc => (hclass c).mp (List.mem_rtakeWhile_imp hc)
  · rintro ⟨⟨before, after, rfl, hbefore, hafter⟩, hhead, hlast⟩
    rw [strip_padded (fun c hc => (hclass c).mpr (hbefore c hc))
      fun c hc => (hclass c).mpr (hafter c hc)]
    exact strip_eq_self_iff.mpr
      ⟨fun c hc => (hbare c).mpr (hhead c hc), fun c hc => (hbare c).mpr (hlast c hc)⟩

/-- Stripping a text with more to keep on both sides of its middle strips the outer ends only. -/
theorem strip_append {before after : Text} (middle : Text) (hbefore : before.dropWhile drop ≠ [])
    (hafter : stripEnd drop after ≠ []) :
    strip drop (before ++ middle ++ after) =
      before.dropWhile drop ++ middle ++ stripEnd drop after := by
  have hreverse : ¬ (after.reverse.dropWhile drop).isEmpty := by
    rw [List.isEmpty_iff]
    exact fun hnil => hafter (by rw [stripEnd, hnil]; rfl)
  rw [strip, List.append_assoc, List.dropWhile_append, if_neg (by rwa [List.isEmpty_iff]), stripEnd,
    List.reverse_append, List.reverse_append, List.append_assoc, List.dropWhile_append,
    if_neg hreverse]
  simp [stripEnd]

end Telemetry.Text
