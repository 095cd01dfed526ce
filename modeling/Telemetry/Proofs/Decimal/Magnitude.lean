import Mathlib.Algebra.Order.Field.Power
import Mathlib.Data.Rat.Cast.Order
import Mathlib.Tactic.FieldSimp
import Mathlib.Tactic.NormNum
import Telemetry.Decimal.Shortest
import Telemetry.Proofs.Decimal.Rounding

/-!
# The doubles that decimals denote

A decimal denotes the double nearest to its value, however the value is split into a coefficient
and a power of ten. The powers of ten that are settled without being computed are no exception.
The shortest decimal of a double therefore denotes that double, with or without the zeros at its
end.

## Main definitions

- `Decimal.Scientific.value` — the rational number that a decimal is

## Main statements

- `Decimal.Scientific.magnitude_of_value` — a decimal denotes the double nearest to its value
- `Decimal.Scientific.magnitude_shortest` — the shortest decimal of a double denotes the double
- `Decimal.Scientific.value_trim` — zeros at the end of a coefficient do not count
- `Decimal.Scientific.value_lt_of_magnitude`, `Decimal.Scientific.le_value_of_magnitude` — the
  range of what denotes a positive finite double
-/

namespace Telemetry.Decimal.Scientific

/-- The number that a decimal is. -/
def value (s : Scientific) : ℚ :=
  s.coefficient * 10 ^ s.exponent

theorem value_nonneg (s : Scientific) : 0 ≤ s.value :=
  mul_nonneg (Nat.cast_nonneg _) (zpow_nonneg (by norm_num) _)

/-- A power of eight is a power of two and not above the same power of ten. -/
theorem two_pow_le_ten_pow (n : Nat) : (2 : ℚ) ^ (3 * n) ≤ 10 ^ n := by
  rw [pow_mul]
  exact pow_le_pow_left₀ (by norm_num) (by norm_num) n

-- ════════════════════════════════════════════════════════════════════════
-- Out of range
-- ════════════════════════════════════════════════════════════════════════

/-- Powers of ten that count as infinite are beyond all doubles. -/
theorem le_value_of_large {s : Scientific} (hne : s.coefficient ≠ 0) (h : 400 < s.exponent) :
    2 ^ 1024 ≤ s.value := by
  have hcoefficient : (1 : ℚ) ≤ s.coefficient := by exact_mod_cast Nat.pos_of_ne_zero hne
  calc (2 : ℚ) ^ 1024 ≤ 2 ^ (3 * 401) := pow_le_pow_right₀ (by norm_num) (by norm_num)
    _ ≤ 10 ^ 401 := two_pow_le_ten_pow 401
    _ = 10 ^ ((401 : Nat) : Int) := (zpow_natCast 10 401).symm
    _ ≤ 10 ^ s.exponent := zpow_le_zpow_right₀ (by norm_num) (by omega)
    _ ≤ s.value := le_mul_of_one_le_left (zpow_nonneg (by norm_num) _) hcoefficient

/-- Powers of ten that count as vanishing are below any unit that matters. -/
theorem value_lt_of_small {s : Scientific} {n : Nat} (hn : n ≤ 1200)
    (h : s.exponent + s.coefficient.log2 + 400 < 0) : s.value * (2 * 2 ^ n) < 1 := by
  obtain ⟨l, hl⟩ : ∃ l, l = s.coefficient.log2 := ⟨_, rfl⟩
  obtain ⟨m, hm⟩ : ∃ m, m = l + 401 := ⟨_, rfl⟩
  have hcoefficient : (s.coefficient : ℚ) < 2 ^ (l + 1) := by
    rw [hl]
    exact_mod_cast Nat.lt_log2_self
  have hpower : (10 : ℚ) ^ s.exponent ≤ (10 ^ m)⁻¹ := by
    rw [← zpow_natCast, ← zpow_neg]
    exact zpow_le_zpow_right₀ (by norm_num) (by omega)
  have hten : (2 : ℚ) ^ (3 * m) ≤ 10 ^ m := two_pow_le_ten_pow _
  have hscale : (2 : ℚ) ^ (l + 1) * (2 * 2 ^ n) ≤ 2 ^ (3 * m) := by
    rw [← pow_succ', ← pow_add]
    exact pow_le_pow_right₀ (by norm_num) (by omega)
  have hpos : (0 : ℚ) < 10 ^ m := by positivity
  calc s.value * (2 * 2 ^ n)
      = s.coefficient * (2 * 2 ^ n) * 10 ^ s.exponent := by rw [value]; ring
    _ ≤ s.coefficient * (2 * 2 ^ n) * (10 ^ m)⁻¹ :=
        mul_le_mul_of_nonneg_left hpower (by positivity)
    _ < 2 ^ (l + 1) * (2 * 2 ^ n) * (10 ^ m)⁻¹ :=
        mul_lt_mul_of_pos_right (mul_lt_mul_of_pos_right hcoefficient (by positivity))
          (inv_pos.mpr hpos)
    _ ≤ 10 ^ m * (10 ^ m)⁻¹ :=
        mul_le_mul_of_nonneg_right (hscale.trans hten) (inv_nonneg.mpr hpos.le)
    _ = 1 := mul_inv_cancel₀ hpos.ne'

-- ════════════════════════════════════════════════════════════════════════
-- Nearest doubles
-- ════════════════════════════════════════════════════════════════════════

variable {s : Scientific} {num den : Nat}

theorem nearestBits_of_le_value (hden : 0 < den) (h : s.value * den = num)
    (hlarge : 2 ^ 1024 ≤ s.value) : nearestBits num den = infinityBits := by
  apply nearestBits_of_large hden
  have hcast : (2 ^ 1024 * den : ℚ) ≤ num := by
    rw [← h]
    exact mul_le_mul_of_nonneg_right hlarge (Nat.cast_nonneg den)
  exact_mod_cast hcast

theorem nearestBits_of_value_lt (hden : 0 < den) (h : s.value * den = num)
    (hsmall : s.value * (2 * 2 ^ leastExponent) < 1) : nearestBits num den = 0 := by
  apply nearestBits_of_small
  have hpos : (0 : ℚ) < den := Nat.cast_pos.mpr hden
  have hcast : (2 * (num * 2 ^ leastExponent) : ℚ) < den :=
    calc (2 * (num * 2 ^ leastExponent) : ℚ)
        = s.value * (2 * 2 ^ leastExponent) * den := by rw [← h]; ring
      _ < 1 * den := mul_lt_mul_of_pos_right hsmall hpos
      _ = den := one_mul _
  rw [unitsOfOne_eq]
  exact_mod_cast hcast

/-- A decimal denotes the double nearest to its value. -/
theorem magnitude_of_value (hden : 0 < den) (h : s.value * den = num) :
    s.magnitude = nearestBits num den := by
  unfold magnitude
  split_ifs with hzero hlarge hsmall
  · have hnum : (num : ℚ) = 0 := by rw [← h, value, hzero, Nat.cast_zero, zero_mul, zero_mul]
    rw [Nat.cast_eq_zero.mp hnum, nearestBits_zero]
  · exact (nearestBits_of_le_value hden h (le_value_of_large hzero hlarge)).symm
  · exact (nearestBits_of_value_lt hden h (value_lt_of_small (by decide) hsmall)).symm
  · rw [value] at h
    split
    · rename_i e he
      rw [he, Int.ofNat_eq_natCast, zpow_natCast] at h
      apply nearestBits_congr Nat.one_pos hden
      rw [Nat.pow_eq, Nat.mul_one]
      exact_mod_cast h
    · rename_i e he
      have hpos : (0 : ℚ) < 10 ^ (e + 1) := by positivity
      rw [he, zpow_negSucc] at h
      apply nearestBits_congr (Nat.pow_pos (by norm_num)) hden
      have hcast : (s.coefficient * den : ℚ) = num * 10 ^ (e + 1) := by
        rw [← h]
        field_simp
      exact_mod_cast hcast

/-- The value of a decimal as a fraction of natural numbers. -/
theorem value_mul_den (s : Scientific) : s.value * s.value.den = s.value.num.toNat := by
  have hnum : (s.value.num.toNat : ℤ) = s.value.num :=
    Int.toNat_of_nonneg (Rat.num_nonneg.mpr s.value_nonneg)
  rw [Rat.mul_den_eq_num, ← Int.cast_natCast, hnum]

theorem magnitude_eq_nearestBits (s : Scientific) :
    s.magnitude = nearestBits s.value.num.toNat s.value.den :=
  magnitude_of_value s.value.den_pos s.value_mul_den

/-- Decimals of the same value denote the same double. -/
theorem magnitude_congr {s' : Scientific} (h : s.value = s'.value) :
    s.magnitude = s'.magnitude := by
  rw [magnitude_eq_nearestBits, magnitude_eq_nearestBits, h]

/-- What denotes a finite double is below the range of infinity. -/
theorem value_lt_of_magnitude (h : s.magnitude < infinityBits) : s.value < 2 ^ 1024 := by
  by_contra hlarge
  rw [magnitude_eq_nearestBits,
    nearestBits_of_le_value s.value.den_pos s.value_mul_den (not_lt.mp hlarge)] at h
  exact Nat.lt_irrefl _ h

/-- What denotes a double above zero is not below half of the least one. -/
theorem le_value_of_magnitude (h : s.magnitude ≠ 0) : 1 ≤ s.value * (2 * 2 ^ leastExponent) := by
  by_contra hsmall
  apply h
  rw [magnitude_eq_nearestBits]
  exact nearestBits_of_value_lt s.value.den_pos s.value_mul_den (not_le.mp hsmall)

-- ════════════════════════════════════════════════════════════════════════
-- Shortest decimals
-- ════════════════════════════════════════════════════════════════════════

variable {bits : Nat}

theorem magnitude_of_readsBackTo (h : bits < infinityBits)
    (hreads : s.readsBackTo (unitsOfBits bits)) : s.magnitude = bits := by
  rw [readsBackTo, Bool.and_eq_true, decide_eq_true_eq, beq_iff_eq] at hreads
  exact unitsOfBits_injective hreads.1 h hreads.2

theorem magnitude_exact (h : bits < infinityBits) :
    (exact (unitsOfBits bits)).magnitude = bits := by
  have hvalue : (exact (unitsOfBits bits)).value * unitsOfOne = unitsOfBits bits := by
    rw [value, exact, unitsOfOne_eq]
    generalize leastExponent = n
    have hten : (10 : ℚ) ^ n = 5 ^ n * 2 ^ n := by rw [← mul_pow]; norm_num
    have hpos : (0 : ℚ) < 10 ^ n := by positivity
    rw [zpow_neg, zpow_natCast, Nat.pow_eq, Nat.cast_mul, Nat.cast_pow, Nat.cast_pow]
    field_simp
    rw [hten]
    push_cast
    ring
  rw [magnitude_of_value unitsOfOne_pos hvalue, nearestBits_unitsOfBits h]

/-- The shortest decimal of a double denotes the double, whether it was found among the decimals of
    a few digits or is the exact one. -/
theorem magnitude_shortest (tie : Tie) (h : bits < infinityBits) :
    (shortest tie (unitsOfBits bits)).magnitude = bits := by
  rw [shortest]
  cases hfound : (List.range 17).findSome? fun (n : Nat) =>
      (around tie (unitsOfBits bits) (leadingExponent (unitsOfBits bits) - n)).find?
        (·.readsBackTo (unitsOfBits bits)) with
  | none => exact magnitude_exact h
  | some s =>
    obtain ⟨n, -, hfind⟩ := List.exists_of_findSome?_eq_some hfound
    have hreads : s.readsBackTo (unitsOfBits bits) = true := by
      have hsome := List.find?_some hfind
      exact hsome
    exact magnitude_of_readsBackTo h hreads

/-- Zeros at the end of a coefficient do not count. -/
theorem value_trim (fuel : Nat) (s : Scientific) : (s.trim fuel).value = s.value := by
  induction fuel generalizing s with
  | zero => rfl
  | succ fuel ih =>
    rw [trim]
    split_ifs with hzero
    · have hcoefficient : s.coefficient / 10 * 10 = s.coefficient :=
        Nat.div_mul_cancel (Nat.dvd_of_mod_eq_zero hzero)
      have hcast : ((s.coefficient / 10 : Nat) : ℚ) * 10 = s.coefficient := by
        exact_mod_cast hcoefficient
      rw [ih, value, value, zpow_add_one₀ (by norm_num), ← hcast]
      ring
    · rfl

end Telemetry.Decimal.Scientific
