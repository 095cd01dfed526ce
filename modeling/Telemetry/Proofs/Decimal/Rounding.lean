import Mathlib.Tactic.Linarith
import Mathlib.Tactic.Positivity
import Mathlib.Tactic.Ring
import Telemetry.Decimal.Binary64

/-!
# Rounding to doubles

The nearest double depends on the fraction alone, not on its numerator and denominator. A fraction
that is itself a double is rounded to that double, so the number of units determines the bits of a
positive finite double. Fractions far out of range give infinity and zero.

## Main statements

- `Decimal.nearestBits_congr` — equal fractions have the same nearest double
- `Decimal.nearestBits_unitsOfBits` — a double is the nearest one to itself
- `Decimal.unitsOfBits_injective` — doubles with the same number of units are the same
- `Decimal.nearestBits_of_large`, `Decimal.nearestBits_of_small` — what is out of range
-/

namespace Telemetry.Decimal

theorem fractionRange_eq : fractionRange = 2 ^ 52 :=
  rfl

theorem unitsOfOne_eq : unitsOfOne = 2 ^ leastExponent := by
  unfold unitsOfOne
  generalize leastExponent = n
  exact Nat.pow_eq

theorem unitsOfOne_pos : 0 < unitsOfOne := by
  rw [unitsOfOne_eq]
  positivity

-- ════════════════════════════════════════════════════════════════════════
-- Rounding to integers
-- ════════════════════════════════════════════════════════════════════════

theorem roundHalfEven_mul {k : Nat} (hk : 0 < k) (num den : Nat) :
    roundHalfEven (num * k) (den * k) = roundHalfEven num den := by
  have hquotient : num * k / (den * k) = num / den := Nat.mul_div_mul_right num den hk
  have hrest : num * k % (den * k) = num % den * k := Nat.mul_mod_mul_right k num den
  have hbelow : 2 * (num % den * k) < den * k ↔ 2 * (num % den) < den := by
    rw [← Nat.mul_assoc]
    exact Nat.mul_lt_mul_right hk
  have habove : den * k < 2 * (num % den * k) ↔ den < 2 * (num % den) := by
    rw [← Nat.mul_assoc]
    exact Nat.mul_lt_mul_right hk
  simp only [roundHalfEven, hquotient, hrest, hbelow, habove]

/-- An integer is rounded to itself. -/
theorem roundHalfEven_mul_self {den : Nat} (hden : 0 < den) (n : Nat) :
    roundHalfEven (n * den) den = n := by
  have hquotient : n * den / den = n := Nat.mul_div_cancel n hden
  have hrest : n * den % den = 0 := Nat.mul_mod_left n den
  simp only [roundHalfEven, hquotient, hrest, Nat.mul_zero]
  rw [if_pos hden]

theorem div_le_roundHalfEven (num den : Nat) : num / den ≤ roundHalfEven num den := by
  simp only [roundHalfEven]
  split
  · exact Nat.le_refl _
  · split
    · exact Nat.le_succ _
    · exact Nat.le_add_right _ _

/-- Less than a half is rounded to zero. -/
theorem roundHalfEven_of_small {num den : Nat} (h : 2 * num < den) : roundHalfEven num den = 0 := by
  have hlt : num < den := by omega
  simp only [roundHalfEven, Nat.div_eq_of_lt hlt, Nat.mod_eq_of_lt hlt]
  rw [if_pos h]

-- ════════════════════════════════════════════════════════════════════════
-- Rounding to doubles
-- ════════════════════════════════════════════════════════════════════════

theorem nearestBits_mul {k : Nat} (hk : 0 < k) (num den : Nat) :
    nearestBits (num * k) (den * k) = nearestBits num den := by
  have hunits : num * k * unitsOfOne = num * unitsOfOne * k := by ring
  have hquotient : num * k * unitsOfOne / (den * k) = num * unitsOfOne / den := by
    rw [hunits]
    exact Nat.mul_div_mul_right _ _ hk
  have hden : ∀ n, den * k * n = den * n * k := fun n => by ring
  simp only [nearestBits, hquotient]
  rw [hunits, hden, roundHalfEven_mul hk]

/-- Equal fractions have the same nearest double. -/
theorem nearestBits_congr {num den num' den' : Nat} (hden : 0 < den) (hden' : 0 < den')
    (h : num * den' = num' * den) : nearestBits num den = nearestBits num' den' :=
  calc nearestBits num den
      = nearestBits (num * den') (den * den') := (nearestBits_mul hden' num den).symm
    _ = nearestBits (num' * den) (den' * den) := by rw [h, Nat.mul_comm den den']
    _ = nearestBits num' den' := nearestBits_mul hden num' den'

theorem nearestBits_zero (den : Nat) : nearestBits 0 den = 0 := by
  simp [nearestBits, roundHalfEven]

/-- From `2 ^ 1024` on, the nearest double is infinity. -/
theorem nearestBits_of_large {num den : Nat} (hden : 0 < den) (h : 2 ^ 1024 * den ≤ num) :
    nearestBits num den = infinityBits := by
  obtain ⟨quotient, hquotient⟩ : ∃ q, q = num * unitsOfOne / den := ⟨_, rfl⟩
  have hlarge : 2 ^ (1024 + leastExponent) ≤ quotient := by
    rw [hquotient, Nat.le_div_iff_mul_le hden, pow_add, ← unitsOfOne_eq, Nat.mul_right_comm]
    exact Nat.mul_le_mul_right _ h
  obtain ⟨shift, hshift⟩ : ∃ s, s = quotient.log2 - fractionBits := ⟨_, rfl⟩
  have hne : quotient ≠ 0 := (Nat.lt_of_lt_of_le (by positivity) hlarge).ne'
  have hlog : 1024 + leastExponent ≤ quotient.log2 := (Nat.le_log2 hne).mpr hlarge
  have hleast : leastExponent = 1074 := rfl
  have hbits : fractionBits = 52 := rfl
  have hsignificand : fractionRange ≤ roundHalfEven (num * unitsOfOne) (den * Nat.pow 2 shift) := by
    refine Nat.le_trans ?_ (div_le_roundHalfEven _ _)
    rw [← Nat.div_div_eq_div_mul, ← hquotient, Nat.pow_eq,
      Nat.le_div_iff_mul_le (Nat.two_pow_pos shift), fractionRange_eq, ← pow_add]
    calc 2 ^ (52 + shift) ≤ 2 ^ quotient.log2 := Nat.pow_le_pow_right (by decide) (by omega)
      _ ≤ quotient := Nat.log2_self_le hne
  have hexponent : 2046 * fractionRange ≤ shift * fractionRange :=
    Nat.mul_le_mul_right _ (by omega)
  simp only [nearestBits, ← hquotient, ← hshift]
  refine Nat.min_eq_left ?_
  rw [infinityBits]
  omega

/-- Below half of the least positive double, the nearest double is zero. -/
theorem nearestBits_of_small {num den : Nat} (h : 2 * (num * unitsOfOne) < den) :
    nearestBits num den = 0 := by
  have hquotient : num * unitsOfOne / den = 0 := Nat.div_eq_of_lt (by omega)
  have hround : roundHalfEven (num * unitsOfOne) den = 0 := roundHalfEven_of_small h
  simp [nearestBits, hquotient, hround]

-- ════════════════════════════════════════════════════════════════════════
-- Units
-- ════════════════════════════════════════════════════════════════════════

/-- A number of units is a significand with a shift, and these are also what the bits are made of.
    The shift is what the significand has too many of at its end. -/
theorem exists_significand (bits : Nat) : ∃ significand shift,
    unitsOfBits bits = significand * 2 ^ shift ∧
      (unitsOfBits bits).log2 - fractionBits = shift ∧
        shift * fractionRange + significand = bits := by
  obtain ⟨exponent, hexponent⟩ : ∃ e, e = bits / fractionRange := ⟨_, rfl⟩
  obtain ⟨fraction, hfraction⟩ : ∃ f, f = bits % fractionRange := ⟨_, rfl⟩
  have hbits : bits = exponent * fractionRange + fraction := by
    rw [hexponent, hfraction]
    exact (Nat.div_add_mod' bits fractionRange).symm
  have hlt : fraction < fractionRange := hfraction ▸ Nat.mod_lt _ (by decide)
  have hrange : fractionRange = 2 ^ 52 := fractionRange_eq
  have hfractionBits : fractionBits = 52 := rfl
  by_cases hzero : exponent = 0
  · have hvalue : unitsOfBits bits = fraction := by
      simp [unitsOfBits, ← hexponent, ← hfraction, hzero]
    refine ⟨fraction, 0, by simp [hvalue], ?_, by rw [hbits, hzero]⟩
    rw [hvalue, Nat.sub_eq_zero_iff_le]
    by_cases hne : fraction = 0
    · simp [hne]
    · exact Nat.le_of_lt ((Nat.log2_lt hne).mpr (hrange ▸ hlt))
  · have hvalue : unitsOfBits bits = (fraction + fractionRange) * 2 ^ (exponent - 1) := by
      simp [unitsOfBits, ← hexponent, ← hfraction, hzero]
    refine ⟨fraction + fractionRange, exponent - 1, hvalue, ?_, ?_⟩
    · have hlow : 2 ^ (52 + (exponent - 1)) ≤ unitsOfBits bits := by
        rw [hvalue, pow_add]
        exact Nat.mul_le_mul_right _ (by omega)
      have hhigh : unitsOfBits bits < 2 ^ (53 + (exponent - 1)) := by
        rw [hvalue, pow_add]
        exact Nat.mul_lt_mul_of_pos_right (by omega) (Nat.two_pow_pos _)
      have hne : unitsOfBits bits ≠ 0 := (Nat.lt_of_lt_of_le (Nat.two_pow_pos _) hlow).ne'
      have hge : 52 + (exponent - 1) ≤ (unitsOfBits bits).log2 := (Nat.le_log2 hne).mpr hlow
      have hle : (unitsOfBits bits).log2 < 53 + (exponent - 1) := (Nat.log2_lt hne).mpr hhigh
      omega
    · obtain ⟨e, rfl⟩ : ∃ e, exponent = e + 1 := Nat.exists_eq_succ_of_ne_zero hzero
      rw [hbits, Nat.add_sub_cancel, Nat.succ_mul]
      omega

/-- A positive finite double is the nearest one to itself. -/
theorem nearestBits_unitsOfBits {bits : Nat} (h : bits < infinityBits) :
    nearestBits (unitsOfBits bits) unitsOfOne = bits := by
  obtain ⟨significand, shift, hunits, hlog, hsum⟩ := exists_significand bits
  have hquotient : unitsOfBits bits * unitsOfOne / unitsOfOne = unitsOfBits bits :=
    Nat.mul_div_cancel _ unitsOfOne_pos
  have hsplit : unitsOfBits bits * unitsOfOne = significand * (unitsOfOne * 2 ^ shift) := by
    rw [hunits, Nat.mul_assoc, Nat.mul_comm unitsOfOne]
  have hround : roundHalfEven (unitsOfBits bits * unitsOfOne) (unitsOfOne * 2 ^ shift) =
      significand := by
    rw [hsplit]
    exact roundHalfEven_mul_self (Nat.mul_pos unitsOfOne_pos (Nat.two_pow_pos shift)) significand
  simp only [nearestBits, hquotient, hlog, Nat.pow_eq, hround, hsum]
  exact Nat.min_eq_right (Nat.le_of_lt h)

/-- Positive finite doubles with the same number of units are the same. -/
theorem unitsOfBits_injective {bits bits' : Nat} (h : bits < infinityBits)
    (h' : bits' < infinityBits) (heq : unitsOfBits bits = unitsOfBits bits') : bits = bits' := by
  rw [← nearestBits_unitsOfBits h, heq, nearestBits_unitsOfBits h']

end Telemetry.Decimal
