import Telemetry.Proofs.Decimal.ReadBack

/-!
# Setting an exponent anew

Canonical numbers with an exponent can be made from a plainer form, in which the exponent has a sign
only if it is negative, and no padding: the exponent is cut off at its letter, read as an integer of
32 bits, and set anew with a sign and at least two digits. Each of these steps could fail on an
arbitrary text. On a number none does, and the result is the canonical text.

## Main definitions

- `Decimal.IsPlain` — a number is written without exponent
- `Decimal.exponential` — the plainer form of a finite number
- `Decimal.resetExponent?` — the text with its exponent set anew, if it has one
- `Decimal.assemble` — the canonical text put together in this way

## Main statements

- `Decimal.Scientific.leading_bounds` — the exponents of doubles
- `Decimal.resetExponent?_exponential` — the exponent of a number can always be set anew
- `Decimal.assemble_eq` — what is put together is the canonical text
-/

namespace Telemetry.Decimal

-- ════════════════════════════════════════════════════════════════════════
-- Exponents of doubles
-- ════════════════════════════════════════════════════════════════════════

theorem ten_pow_le_of_digits {n : Nat} (h : n ≠ 0) : 10 ^ ((digits n).length - 1) ≤ n := by
  by_contra hlt
  have hpos : 0 < (digits n).length := Nat.length_toDigits_pos
  by_cases hone : (digits n).length = 1
  · rw [hone] at hlt
    simp only [Nat.sub_self, Nat.pow_zero] at hlt
    omega
  · have hle : (digits n).length ≤ (digits n).length - 1 :=
      (Nat.length_toDigits_le_iff (by decide) (by omega)).mpr (not_le.mp hlt)
    omega

theorem lt_ten_pow_digits (n : Nat) : n < 10 ^ (digits n).length :=
  (Nat.length_toDigits_le_iff (by decide) Nat.length_toDigits_pos).mp le_rfl

namespace Scientific

/-- The decimal that is written for a positive number of units. -/
def written (tie : Tie) (units : Nat) : Scientific :=
  let s := shortest tie units
  s.trim (digits s.coefficient).length

theorem magnitude_written (tie : Tie) {bits : Nat} (h : bits < infinityBits) :
    (written tie (unitsOfBits bits)).magnitude = bits := by
  rw [written, magnitude_congr (value_trim _ _), magnitude_shortest tie h]

/-- The exponent of the leading digit. -/
def leading (s : Scientific) : Int :=
  s.exponent + (digits s.coefficient).length - 1

variable {s : Scientific}

theorem ten_zpow_leading_le (h : s.coefficient ≠ 0) : (10 : ℚ) ^ s.leading ≤ s.value := by
  have hpos : 0 < (digits s.coefficient).length := Nat.length_toDigits_pos
  have hle : (10 : ℚ) ^ ((digits s.coefficient).length - 1) ≤ s.coefficient := by
    exact_mod_cast ten_pow_le_of_digits h
  have hleading : s.leading = ((digits s.coefficient).length - 1 : Nat) + s.exponent := by
    rw [leading]
    omega
  rw [hleading, zpow_add₀ (by norm_num), zpow_natCast, value]
  exact mul_le_mul_of_nonneg_right hle (zpow_nonneg (by norm_num) _)

theorem value_lt_ten_zpow (s : Scientific) : s.value < 10 ^ (s.leading + 1) := by
  have hlt : (s.coefficient : ℚ) < 10 ^ (digits s.coefficient).length := by
    exact_mod_cast lt_ten_pow_digits s.coefficient
  have hleading : s.leading + 1 = ((digits s.coefficient).length : Nat) + s.exponent := by
    rw [leading]
    omega
  rw [hleading, zpow_add₀ (by norm_num), zpow_natCast, value]
  exact mul_lt_mul_of_pos_right hlt (zpow_pos (by norm_num) _)

/-- The leading digit of what denotes a positive finite double is not far from the point. -/
theorem leading_bounds (hinf : s.magnitude < infinityBits) (hzero : s.magnitude ≠ 0) :
    -360 ≤ s.leading ∧ s.leading < 342 := by
  constructor
  · by_contra hlow
    have hone : 1 ≤ s.value * (2 * 2 ^ leastExponent) := le_value_of_magnitude hzero
    have hvalue : s.value < 10 ^ (-359 : ℤ) :=
      s.value_lt_ten_zpow.trans_le (zpow_le_zpow_right₀ (by norm_num) (by omega))
    have hscale : (2 : ℚ) * 2 ^ leastExponent ≤ 10 ^ (359 : ℤ) := by
      rw [← pow_succ']
      exact (pow_le_pow_right₀ (by norm_num) (by decide)).trans (two_pow_le_ten_pow 359)
    have hscale_pos : (0 : ℚ) < 2 * 2 ^ leastExponent := mul_pos two_pos (pow_pos two_pos _)
    have hlt : s.value * (2 * 2 ^ leastExponent) < 1 :=
      calc s.value * (2 * 2 ^ leastExponent)
          < 10 ^ (-359 : ℤ) * (2 * 2 ^ leastExponent) := mul_lt_mul_of_pos_right hvalue hscale_pos
        _ ≤ 10 ^ (-359 : ℤ) * 10 ^ (359 : ℤ) :=
            mul_le_mul_of_nonneg_left hscale (zpow_nonneg (by norm_num) _)
        _ = 1 := zpow_neg_mul_zpow_self _ (by norm_num)
    exact absurd (hone.trans_lt hlt) (lt_irrefl _)
  · by_contra hhigh
    have hvalue : s.value < 2 ^ 1024 := value_lt_of_magnitude hinf
    have hlarge : (10 : ℚ) ^ (342 : ℤ) ≤ s.value :=
      (zpow_le_zpow_right₀ (by norm_num) (by omega)).trans
        (ten_zpow_leading_le (coefficient_ne_zero hzero))
    have hpow : (2 : ℚ) ^ 1024 ≤ 10 ^ (342 : ℤ) :=
      (pow_le_pow_right₀ (by norm_num) (by decide)).trans (two_pow_le_ten_pow 342)
    exact absurd (hvalue.trans_le (hpow.trans hlarge)) (lt_irrefl _)

end Scientific

-- ════════════════════════════════════════════════════════════════════════
-- Bare exponents
-- ════════════════════════════════════════════════════════════════════════

/-- The integer of 32 bits that a text denotes, with or without a sign. -/
def readInt32? (t : Text) : Option Int :=
  let (negative, ds) := takeSign t
  if ds.isEmpty || !ds.all Char.isDigit then none
  else
    let n : Int := if negative then -(natural ds : Int) else natural ds
    if Int32.minValue.toInt ≤ n ∧ n ≤ Int32.maxValue.toInt then some n else none

/-- A text with its exponent set anew, with a sign and at least two digits; nothing if there is no
    letter `e` in it, or no integer behind the first one. -/
def resetExponent? (t : Text) : Option Text :=
  match t.dropWhile (· != 'e') with
  | [] => none
  | _ :: exponent =>
    (readInt32? exponent).map fun n =>
      t.takeWhile (· != 'e') ++ 'e' :: (if n < 0 then '-' else '+') ::
        padded canonical.exponentWidth n.natAbs

theorem readInt32?_integer {n : Int} (low : -2 ^ 31 ≤ n) (high : n < 2 ^ 31) :
    readInt32? (integer n) = some n := by
  have hrange : Int32.minValue.toInt ≤ n ∧ n ≤ Int32.maxValue.toInt := by
    have hmin : Int32.minValue.toInt = -2 ^ 31 := by decide
    have hmax : Int32.maxValue.toInt = 2 ^ 31 - 1 := by decide
    omega
  have hguard : ∀ m, ((digits m).isEmpty || !(digits m).all Char.isDigit) = false := fun m => by
    simpa using ⟨digits_ne_nil m, fun c hc => isDigit_of_mem_digits hc⟩
  cases n with
  | ofNat m =>
    have hsign : takeSign (digits m) = (false, digits m) := by
      obtain ⟨c, t, hm⟩ := List.exists_cons_of_ne_nil (digits_ne_nil m)
      have hc : c.isDigit := isDigit_of_mem_digits (hm ▸ List.mem_cons_self)
      rw [hm]
      exact takeSign_of_isDigit hc
    have hvalue : (natural (digits m) : Int) = .ofNat m := by rw [natural_digits]; rfl
    simp only [readInt32?, integer, hsign, hguard, hvalue]
    simpa using hrange
  | negSucc m =>
    have hvalue : -(natural (digits (m + 1)) : Int) = .negSucc m := by rw [natural_digits]; rfl
    simp only [readInt32?, integer, takeSign, hguard, hvalue]
    simpa using hrange

theorem resetExponent?_append {mantissa : Text} (free : 'e' ∉ mantissa) {n : Int}
    (low : -2 ^ 31 ≤ n) (high : n < 2 ^ 31) :
    resetExponent? (mantissa ++ 'e' :: integer n) =
      some (mantissa ++ 'e' :: (if n < 0 then '-' else '+') ::
        padded canonical.exponentWidth n.natAbs) := by
  have hne : ∀ c ∈ mantissa, (c != 'e') = true :=
    fun c hc => bne_iff_ne.mpr fun h => free (h ▸ hc)
  have hdrop : (mantissa ++ 'e' :: integer n).dropWhile (· != 'e') = 'e' :: integer n := by
    rw [List.dropWhile_append_of_pos hne, List.dropWhile_cons_of_neg (by decide)]
  have htake : (mantissa ++ 'e' :: integer n).takeWhile (· != 'e') = mantissa := by
    rw [List.takeWhile_append_of_pos hne, List.takeWhile_cons_of_neg (by decide), List.append_nil]
  rw [resetExponent?, hdrop, htake]
  simp only [readInt32?_integer low high, Option.map_some]

-- ════════════════════════════════════════════════════════════════════════
-- Canonical texts
-- ════════════════════════════════════════════════════════════════════════

/-- A number that is written without exponent: zero, and what has its leading digit near the
    point. -/
def IsPlain (units : Nat) : Prop :=
  units = 0 ∨
    canonical.plainFrom ≤ (Scientific.written canonical.tie units).leading ∧
      (Scientific.written canonical.tie units).leading ≤ canonical.plainTo

instance (units : Nat) : Decidable (IsPlain units) :=
  inferInstanceAs (Decidable (_ ∨ _ ∧ _))

/-- The decimal that is written for any number of units. -/
def decimalOf (units : Nat) : Scientific :=
  if units = 0 then ⟨0, 0⟩ else .written canonical.tie units

/-- The digits of a number with the point behind the first one. -/
def mantissa (units : Nat) : Text :=
  let ds := digits (decimalOf units).coefficient
  ds.take 1 ++ if ds.length ≤ 1 then [] else '.' :: ds.drop 1

/-- The plainer form of a finite number: its mantissa and an exponent that has a sign only if it is
    negative. -/
def exponential (negative : Bool) (units : Nat) : Text :=
  (if negative then ['-'] else []) ++ mantissa units ++ 'e' :: integer (decimalOf units).leading

theorem mantissa_free (negative : Bool) (units : Nat) :
    'e' ∉ (if negative then ['-'] else []) ++ mantissa units := by
  have hdigits : ∀ ds : Text, (∀ c ∈ ds, c.isDigit) → 'e' ∉ ds :=
    fun ds all he => absurd (all 'e' he) (by decide)
  have hall : ∀ c ∈ digits (decimalOf units).coefficient, c.isDigit :=
    fun c => isDigit_of_mem_digits
  intro he
  obtain he | he := List.mem_append.mp he
  · cases negative <;> simp at he
  · obtain he | he := List.mem_append.mp he
    · exact hdigits _ (fun c hc => hall c (List.mem_of_mem_take hc)) he
    · split at he
      · cases he
      · obtain he | he := List.mem_cons.mp he
        · revert he
          decide
        · exact hdigits _ (fun c hc => hall c (List.mem_of_mem_drop hc)) he

theorem leading_decimalOf {bits : Nat} (h : bits < infinityBits) :
    -2 ^ 31 ≤ (decimalOf (unitsOfBits bits)).leading ∧
      (decimalOf (unitsOfBits bits)).leading < 2 ^ 31 := by
  by_cases hzero : unitsOfBits bits = 0
  · rw [decimalOf, if_pos hzero]
    decide
  · have hbits : bits ≠ 0 := by
      rintro rfl
      exact hzero unitsOfBits_zero
    have hmagnitude := Scientific.magnitude_written canonical.tie h
    have hbounds := Scientific.leading_bounds (hmagnitude.symm ▸ h) (hmagnitude.symm ▸ hbits)
    rw [decimalOf, if_neg hzero]
    omega

/-- A number that is not written plainly is its mantissa with a padded exponent. -/
theorem writeUnits_of_not_isPlain {units : Nat} (h : ¬ IsPlain units) :
    canonical.writeUnits units = mantissa units ++
      'e' :: (if (decimalOf units).leading < 0 then '-' else '+') ::
        padded canonical.exponentWidth (decimalOf units).leading.natAbs := by
  have hunits : units ≠ 0 := fun hzero => h (.inl hzero)
  have hthreshold := fun hin => h (.inr hin)
  rw [Layout.writeUnits, if_neg hunits, mantissa, decimalOf, if_neg hunits]
  exact if_neg hthreshold

/-- The exponent of a number can always be set anew. Unless the number is written without exponent,
    this gives its canonical text. -/
theorem resetExponent?_exponential (negative : Bool) {bits : Nat} (h : bits < infinityBits) :
    ∃ t, resetExponent? (exponential negative (unitsOfBits bits)) = some t ∧
      (¬ IsPlain (unitsOfBits bits) →
        (if negative then ['-'] else []) ++ canonical.writeUnits (unitsOfBits bits) = t) := by
  obtain ⟨low, high⟩ := leading_decimalOf h
  have hreset := resetExponent?_append (mantissa_free negative (unitsOfBits bits)) low high
  refine ⟨_, hreset, ?_⟩
  intro hplain
  rw [writeUnits_of_not_isPlain hplain, List.append_assoc]

/-- The canonical text of a number put together from its plainer form. Where that cannot be taken
    apart, it is handed back as it is. -/
def assemble (x : Float) : Except Text Text :=
  match Scalar.ofFloat x with
  | .notANumber => .ok ['N', 'a', 'N']
  | .infinite negative => .ok ((if negative then '-' else '+') :: ['I', 'n', 'f'])
  | .finite negative units =>
    if IsPlain units then .ok ((if negative then ['-'] else []) ++ canonical.writeUnits units)
    else
      match resetExponent? (exponential negative units) with
      | some t => .ok t
      | none => .error (exponential negative units)

/-- What is put together is the canonical text, and nothing is ever handed back as it is. -/
theorem assemble_eq (x : Float) : assemble x = .ok (canonical.write x) := by
  unfold assemble Layout.write
  cases h : Scalar.ofFloat x with
  | notANumber => rfl
  | infinite negative => rfl
  | finite negative units =>
    obtain ⟨bits, hbits, rfl, -⟩ := eq_ofMagnitude_of_finite h
    obtain ⟨t, hreset, htext⟩ := resetExponent?_exponential negative hbits
    dsimp only
    split
    case isTrue => rfl
    case isFalse hplain => rw [hreset, htext hplain]

end Telemetry.Decimal
