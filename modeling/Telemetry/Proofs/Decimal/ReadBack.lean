import Telemetry.Proofs.Decimal.Doubles
import Telemetry.Proofs.Decimal.Spelling

/-!
# Written numbers read back

Whatever its layout, the text of a double is the spelling of a decimal that denotes the double, and
reading the text gives the double back: zeros with their sign, the infinities, and what is not a
number by their names.

## Main definitions

- `Decimal.IsNumeric` — the characters that a written number may have

## Main statements

- `Decimal.Layout.exists_spelling_writeUnits` — the text of a finite double is a spelling of it
- `Decimal.read?_write` — reading undoes writing
- `Decimal.Layout.isNumeric_of_mem_write` — the characters of written numbers
-/

namespace Telemetry.Decimal

-- ════════════════════════════════════════════════════════════════════════
-- Finite doubles
-- ════════════════════════════════════════════════════════════════════════

theorem unitsOfBits_zero : unitsOfBits 0 = 0 := by decide

theorem Scientific.coefficient_ne_zero {s : Scientific} (h : s.magnitude ≠ 0) :
    s.coefficient ≠ 0 := by
  intro hzero
  apply h
  rw [magnitude, if_pos hzero]

/-- The text of a finite double is a spelling of a decimal that denotes it. -/
theorem Layout.exists_spelling_writeUnits (l : Layout) {bits : Nat} (h : bits < infinityBits) :
    ∃ p : Spelling, l.writeUnits (unitsOfBits bits) = p.text ∧ p.scientific.magnitude = bits ∧
      (l.keepsFraction → p.fraction ≠ [] ∨ p.exponent.isSome) := by
  unfold writeUnits
  by_cases hzero : unitsOfBits bits = 0
  · have hbits : bits = 0 :=
      unitsOfBits_injective h (by decide) (hzero.trans unitsOfBits_zero.symm)
    have hexponent : digits 0 = ['0'] → (0 : Int) = 0 := fun _ => rfl
    obtain ⟨p, htext, hvalue, hkeep⟩ := l.spells_plain (isWhole_digits 0) hexponent
    refine ⟨p, ?_, ?_, hkeep⟩
    · rw [if_pos hzero]
      exact htext
    · rw [Scientific.magnitude_congr hvalue, hbits]
      rfl
  · obtain ⟨s, hs⟩ : ∃ s, s = Scientific.shortest l.tie (unitsOfBits bits) := ⟨_, rfl⟩
    have hmagnitude : (s.trim (digits s.coefficient).length).magnitude = bits := by
      rw [Scientific.magnitude_congr (Scientific.value_trim _ s), hs,
        Scientific.magnitude_shortest l.tie h]
    have hbits : bits ≠ 0 := by
      rintro rfl
      exact hzero unitsOfBits_zero
    obtain ⟨p, htext, hvalue, hkeep⟩ :=
      l.spells_writeScientific (Scientific.coefficient_ne_zero (hmagnitude ▸ hbits))
    refine ⟨p, ?_, ?_, hkeep⟩
    · rw [if_neg hzero, ← hs]
      exact htext
    · rw [Scientific.magnitude_congr hvalue, hmagnitude]

-- ════════════════════════════════════════════════════════════════════════
-- Reading
-- ════════════════════════════════════════════════════════════════════════

theorem toLower_of_isDigit {c : Char} (h : c.isDigit) : c.toLower = c := by
  rw [Char.isDigit, Bool.and_eq_true, decide_eq_true_eq, decide_eq_true_eq] at h
  unfold Char.toLower
  rw [dif_neg]
  intro hupper
  have hle : c.val.toNat ≤ 57 := UInt32.le_iff_toNat_le.mp h.2
  have hge : 65 ≤ c.val.toNat := UInt32.le_iff_toNat_le.mp hupper.1
  omega

/-- A number is none of the words, whose first letter is no digit. -/
theorem isWord_of_isDigit {c w : Char} {t word : Text} (hc : c.isDigit) (hw : w.isDigit = false) :
    isWord (w :: word) (c :: t) = false := by
  have hne : c ≠ w := by
    rintro rfl
    rw [hc] at hw
    cases hw
  rw [isWord, List.map_cons, toLower_of_isDigit hc]
  simp [hne]

theorem takeSign_of_isDigit {c : Char} {t : Text} (h : c.isDigit) :
    takeSign (c :: t) = (false, c :: t) := by
  unfold takeSign
  split
  · rename_i heq
    cases heq
    cases h
  · rename_i heq
    cases heq
    cases h
  · rfl

/-- Reading a spelling with or without a minus before it gives the double that the decimal
    denotes. -/
theorem read?_spelling (negative : Bool) (p : Spelling) :
    read? ((if negative then ['-'] else []) ++ p.text) =
      some (ofMagnitude negative p.scientific.magnitude) := by
  obtain ⟨c, t, htext, hc⟩ := p.exists_cons
  have hsign : takeSign ((if negative then ['-'] else []) ++ p.text) = (negative, p.text) := by
    cases negative with
    | true => rfl
    | false =>
      rw [htext]
      exact takeSign_of_isDigit hc
  have hword : ∀ w word, w.isDigit = false → isWord (w :: word) p.text = false := by
    intro w word hw
    rw [htext]
    exact isWord_of_isDigit hc hw
  simp only [read?, hsign, p.readScientific?_text]
  rw [hword 'i' _ rfl, hword 'i' _ rfl, hword 'n' _ rfl]
  rfl

/-- Reading undoes writing, whatever the layout. -/
theorem read?_write (l : Layout) (x : Float) : read? (l.write x) = some x := by
  unfold Layout.write
  cases h : Scalar.ofFloat x with
  | notANumber =>
    rw [← eq_notANumber_of_notANumber h]
    rfl
  | infinite negative =>
    rw [← eq_infinity_of_infinite h]
    cases negative <;> rfl
  | finite negative units =>
    obtain ⟨bits, hbits, rfl, rfl⟩ := eq_ofMagnitude_of_finite h
    obtain ⟨p, htext, hmagnitude, -⟩ := l.exists_spelling_writeUnits hbits
    dsimp only
    rw [htext, read?_spelling, hmagnitude]

-- ════════════════════════════════════════════════════════════════════════
-- Characters of numbers
-- ════════════════════════════════════════════════════════════════════════

/-- The characters that a written number consists of. -/
def IsNumeric (c : Char) : Prop :=
  c.isDigit ∨ c ∈ ['.', 'e', '+', '-', 'N', 'a', 'I', 'n', 'f']

theorem Spelling.isNumeric_of_mem_text {p : Spelling} {c : Char} (h : c ∈ p.text) :
    IsNumeric c := by
  unfold text point power at h
  obtain h | h := List.mem_append.mp h
  · exact .inl (p.isWhole.all c h)
  obtain h | h := List.mem_append.mp h
  · split at h
    · cases h
    · obtain rfl | h := List.mem_cons.mp h
      · exact .inr (by decide)
      · exact .inl (p.fraction_digits c h)
  · split at h
    · cases h
    case h_2 negative ds hexponent =>
      obtain rfl | h := List.mem_cons.mp h
      · exact .inr (by decide)
      obtain rfl | h := List.mem_cons.mp h
      · cases negative <;> exact .inr (by decide)
      · exact .inl (p.exponent_digits _ hexponent c h)

/-- A written number consists of digits and a few other characters, none of which is a blank, a
    colon or a quotation mark. -/
theorem Layout.isNumeric_of_mem_write {l : Layout} {x : Float} {c : Char} (h : c ∈ l.write x) :
    IsNumeric c := by
  unfold write at h
  cases hx : Scalar.ofFloat x with
  | notANumber =>
    rw [hx] at h
    simp only [List.mem_cons, List.not_mem_nil, or_false] at h
    obtain rfl | rfl | rfl := h <;> exact .inr (by decide)
  | infinite negative =>
    rw [hx] at h
    simp only [List.mem_cons, List.not_mem_nil, or_false] at h
    obtain rfl | rfl | rfl | rfl := h
    · cases negative <;> exact .inr (by decide)
    all_goals exact .inr (by decide)
  | finite negative units =>
    rw [hx] at h
    obtain ⟨bits, hbits, rfl, -⟩ := eq_ofMagnitude_of_finite hx
    obtain ⟨p, htext, -, -⟩ := l.exists_spelling_writeUnits hbits
    obtain h | h := List.mem_append.mp h
    · cases negative
      · cases h
      · obtain rfl := List.mem_singleton.mp h
        exact .inr (by decide)
    · exact p.isNumeric_of_mem_text (htext ▸ h)

end Telemetry.Decimal
