import Mathlib
import Telemetry.Decimal.Binary64

/-!
# Doubles and their bits

A double is determined by what it stands for: a finite one by its sign and its number of units, an
infinite one by its sign, and there is only one that is not a number. Bits that do not stand for
that one are the bits of their double.

## Main definitions

- `Decimal.IsNaNBits` — bits that stand for no number

## Main statements

- `Decimal.eq_ofMagnitude_of_finite`, `Decimal.eq_infinity_of_infinite`,
  `Decimal.eq_notANumber_of_notANumber` — a double from what it stands for
- `Decimal.toBits_ofBits` — a double keeps the bits that it is made of
-/

namespace Telemetry.Decimal

/-- A pattern of bits stands for no number: its exponent is greatest and its fraction is not
    zero. -/
def IsNaNBits (bits : UInt64) : Prop :=
  infinityBits < bits.toNat % signBits

instance (bits : UInt64) : Decidable (IsNaNBits bits) :=
  inferInstanceAs (Decidable (_ < _))

theorem infinityBits_eq : infinityBits = 0x7FF0000000000000 := by decide

theorem signBits_eq : signBits = 0x8000000000000000 := by decide

/-- The two readings of the bits of a pattern without number agree: by size and by fields. -/
theorem isNaNBits_iff {bits : UInt64} :
    IsNaNBits bits ↔
      @Float.Model.UnpackedFloat.isNaNBits .binary64 bits.toBitVec = true := by
  have hexponent : (@Float.Model.UnpackedFloat.unpackExponent .binary64
      bits.toBitVec).toNat = bits.toNat / 2 ^ 52 % 2 ^ 11 := by
    rw [Float.Model.UnpackedFloat.unpackExponent_def, BitVec.extractLsb'_toNat,
      Nat.shiftRight_eq_div_pow]
    rfl
  have hfraction : (@Float.Model.UnpackedFloat.unpackMantissa .binary64
      bits.toBitVec).toNat = bits.toNat % 2 ^ 52 := by
    rw [Float.Model.UnpackedFloat.unpackMantissa_def, BitVec.extractLsb'_toNat]
    rfl
  have hones : (-BitVec.ofNat Float.Model.Format.binary64.exponentBits 1).toNat = 2047 := by decide
  rw [IsNaNBits, infinityBits_eq, signBits_eq, Float.Model.UnpackedFloat.isNaNBits,
    decide_eq_true_eq, ← BitVec.toNat_inj, hexponent, hones, ne_eq, ← BitVec.toNat_inj, hfraction]
  have hzero :
      (BitVec.ofNat Float.Model.Format.binary64.mantissaBitsWithoutImplicit 0).toNat = 0 := rfl
  rw [hzero]
  omega

/-- A double keeps the bits that it is made of. -/
theorem toBits_ofBits {bits : UInt64} (h : ¬ IsNaNBits bits) :
    (Float.ofBits bits).toBits = bits := by
  rw [isNaNBits_iff] at h
  have hpack := @Float.Model.UnpackedFloat.pack_unpack .binary64 bits.toBitVec (by decide)
  rw [if_neg h] at hpack
  exact UInt64.toBitVec_inj.mp hpack

/-- Bits that stand for no number give a double that is not a number, though perhaps with other
    bits. -/
theorem isNaNBits_toBits_ofBits {bits : UInt64} (h : IsNaNBits bits) :
    IsNaNBits (Float.ofBits bits).toBits := by
  rw [isNaNBits_iff] at h
  have hpack := @Float.Model.UnpackedFloat.pack_unpack .binary64 bits.toBitVec (by decide)
  rw [if_pos h] at hpack
  have hbits : (Float.ofBits bits).toBits.toBitVec =
      Float.Model.UnpackedFloat.packedNaN .binary64 := hpack
  rw [isNaNBits_iff, hbits]
  decide

variable {x : Float}

theorem ofMagnitude_toBits (x : Float) :
    ofMagnitude (decide (signBits ≤ x.toBits.toNat)) (x.toBits.toNat % signBits) = x := by
  have hlt : x.toBits.toNat < 2 ^ 64 := x.toBits.toNat_lt
  have hsum : (if decide (signBits ≤ x.toBits.toNat) = true then signBits else 0) +
      x.toBits.toNat % signBits = x.toBits.toNat := by
    rw [signBits_eq]
    by_cases hsign : 0x8000000000000000 ≤ x.toBits.toNat
    · rw [if_pos (by simpa using hsign)]
      omega
    · rw [if_neg (by simpa using hsign)]
      omega
  rw [ofMagnitude, hsum, UInt64.ofNat_toNat, Float.ofBits_toBits]

theorem isNaNBits_of_notANumber (h : Scalar.ofFloat x = .notANumber) : IsNaNBits x.toBits := by
  simp only [Scalar.ofFloat] at h
  split_ifs at h with hnan hinf
  · exact hnan

/-- A finite double is made of its sign and of bits with its number of units. -/
theorem eq_ofMagnitude_of_finite {negative : Bool} {units : Nat}
    (h : Scalar.ofFloat x = .finite negative units) :
    ∃ bits, bits < infinityBits ∧ unitsOfBits bits = units ∧ ofMagnitude negative bits = x := by
  simp only [Scalar.ofFloat] at h
  split_ifs at h with hnan hinf
  cases h
  exact ⟨_, by omega, rfl, ofMagnitude_toBits x⟩

theorem eq_infinity_of_infinite {negative : Bool} (h : Scalar.ofFloat x = .infinite negative) :
    infinity negative = x := by
  simp only [Scalar.ofFloat] at h
  split_ifs at h with hnan hinf
  cases h
  rw [infinity, ← hinf]
  exact ofMagnitude_toBits x

/-- There is only one double that is not a number. -/
theorem eq_notANumber_of_notANumber (h : Scalar.ofFloat x = .notANumber) : notANumber = x := by
  have hnan : @Float.Model.UnpackedFloat.isNaNBits .binary64 x.toBits.toBitVec = true :=
    isNaNBits_iff.mp (isNaNBits_of_notANumber h)
  rw [Float.Model.UnpackedFloat.isNaNBits, decide_eq_true_eq] at hnan
  have hbits : x.toBits.toBitVec = Float.Model.UnpackedFloat.packedNaN .binary64 :=
    x.toModel.valid.eq_packedNaN hnan.1 hnan.2
  have hpattern : x.toBits = UInt64.ofNat (infinityBits + fractionRange / 2) :=
    UInt64.toBitVec_inj.mp (hbits.trans (by decide))
  rw [← Float.ofBits_toBits x, hpattern]
  rfl

end Telemetry.Decimal
