import Mathlib.Tactic.FieldSimp
import Telemetry.Decimal.Layout
import Telemetry.Proofs.Decimal.Magnitude

/-!
# Spellings of decimals

A written decimal has digits before a point, digits behind it, and an exponent, of which the last
two may be missing. This is the common ground of those that write numbers and those that read them:
every layout writes such a spelling of the decimal that it is given, and reading a spelling gives
the decimal back, split into a coefficient and an exponent as the point has it.

## Main definitions

- `Decimal.Spelling` — the pieces of a written decimal
- `Decimal.Spelling.text`, `Decimal.Spelling.scientific` — its text and what it denotes

## Main statements

- `Decimal.Spelling.readScientific?_text` — reading a spelling
- `Decimal.Layout.spells_writeScientific` — a layout writes a spelling of its decimal
-/

namespace Telemetry.Decimal

-- ════════════════════════════════════════════════════════════════════════
-- Digits
-- ════════════════════════════════════════════════════════════════════════

theorem natural_digits (n : Nat) : natural (digits n) = n :=
  Nat.ofDigitChars_ten_toDigits

theorem natural_append (a b : Text) :
    natural (a ++ b) = natural a * 10 ^ b.length + natural b := by
  rw [natural, Nat.ofDigitChars_append, Nat.ofDigitChars_eq_ofDigitChars_zero, Nat.mul_comm]
  rfl

theorem natural_zeros (n : Nat) : natural (List.replicate n '0') = 0 := by
  rw [natural, Nat.ofDigitChars_replicate_zero, Nat.mul_zero]

theorem natural_padded (width n : Nat) : natural (padded width n) = n := by
  rw [padded, natural_append, natural_zeros, Nat.zero_mul, Nat.zero_add, natural_digits]

theorem isDigit_of_mem_digits {n : Nat} {c : Char} (h : c ∈ digits n) : c.isDigit :=
  Nat.isDigit_of_mem_toDigits (by decide) (by decide) h

theorem isDigit_of_mem_zeros {n : Nat} {c : Char} (h : c ∈ List.replicate n '0') : c.isDigit := by
  obtain rfl := List.eq_of_mem_replicate h
  rfl

theorem isDigit_of_mem_padded {width n : Nat} {c : Char} (h : c ∈ padded width n) :
    c.isDigit := by
  obtain h | h := List.mem_append.mp h
  · exact isDigit_of_mem_zeros h
  · exact isDigit_of_mem_digits h

theorem digits_ne_nil (n : Nat) : digits n ≠ [] :=
  Nat.toDigits_ne_nil

theorem padded_ne_nil (width n : Nat) : padded width n ≠ [] :=
  List.append_ne_nil_of_right_ne_nil _ (digits_ne_nil n)

/-- A positive number has no leading zero. -/
theorem head?_digits {n : Nat} (h : n ≠ 0) : (digits n).head? ≠ some '0' := by
  induction n using Nat.strongRecOn with
  | ind n ih =>
    by_cases hlt : n < 10
    · rw [digits, Nat.toDigits_of_lt_base hlt, List.head?_cons, ne_eq, Option.some.injEq,
        Nat.digitChar_eq_zero]
      exact h
    · have hle : 10 ≤ n := Nat.not_lt.mp hlt
      rw [digits, Nat.toDigits_of_base_le (by decide) hle,
        List.head?_append_of_ne_nil _ Nat.toDigits_ne_nil]
      exact ih (n / 10) (by omega) (by omega)

/-- A text does not start with a digit. -/
def StopsDigits (t : Text) : Prop :=
  ∀ c ∈ t.head?, c.isDigit = false

theorem StopsDigits.nil : StopsDigits [] := by
  intro c hc
  cases hc

theorem StopsDigits.cons {c : Char} {t : Text} (h : c.isDigit = false) : StopsDigits (c :: t) := by
  intro d hd
  cases hd
  exact h

variable {ds rest : Text}

theorem takeWhile_isDigit (all : ∀ c ∈ ds, c.isDigit) (stop : StopsDigits rest) :
    (ds ++ rest).takeWhile Char.isDigit = ds := by
  rw [List.takeWhile_append_of_pos all]
  cases rest with
  | nil => rw [List.takeWhile_nil, List.append_nil]
  | cons c rest =>
    rw [List.takeWhile_cons_of_neg (Bool.not_eq_true _ ▸ stop c rfl), List.append_nil]

theorem dropWhile_isDigit (all : ∀ c ∈ ds, c.isDigit) (stop : StopsDigits rest) :
    (ds ++ rest).dropWhile Char.isDigit = rest := by
  rw [List.dropWhile_append_of_pos all]
  cases rest with
  | nil => rfl
  | cons c rest => exact List.dropWhile_cons_of_neg (Bool.not_eq_true _ ▸ stop c rfl)

/-- A text of digits that can stand before a point. -/
structure IsWhole (ds : Text) : Prop where
  ne_nil : ds ≠ []
  all : ∀ c ∈ ds, c.isDigit
  /-- A leading zero stands alone. -/
  zero : ds.head? = some '0' → ds = ['0']

theorem isWhole_digits (n : Nat) : IsWhole (digits n) where
  ne_nil := digits_ne_nil n
  all := fun _ => isDigit_of_mem_digits
  zero := by
    intro h
    by_cases hn : n = 0
    · rw [hn]
      rfl
    · exact absurd h (head?_digits hn)

theorem IsWhole.take {n : Nat} (h : IsWhole ds) (hn : 0 < n) : IsWhole (ds.take n) where
  ne_nil := by
    have hlength : 0 < ds.length := List.length_pos_iff.mpr h.ne_nil
    rw [← List.length_pos_iff, List.length_take]
    omega
  all := fun c hc => h.all c (List.mem_of_mem_take hc)
  zero := by
    intro hzero
    have hhead : ds.head? = some '0' := by
      rwa [List.head?_take, if_neg hn.ne'] at hzero
    rw [h.zero hhead]
    exact List.take_of_length_le hn

/-- Zeros can follow any number but a zero. -/
theorem IsWhole.append_zeros {n : Nat} (h : IsWhole ds) (hzero : ds = ['0'] → n = 0) :
    IsWhole (ds ++ List.replicate n '0') where
  ne_nil := List.append_ne_nil_of_left_ne_nil h.ne_nil _
  all := by
    intro c hc
    obtain hc | hc := List.mem_append.mp hc
    · exact h.all c hc
    · exact isDigit_of_mem_zeros hc
  zero := by
    intro hhead
    rw [List.head?_append_of_ne_nil _ h.ne_nil] at hhead
    have hds : ds = ['0'] := h.zero hhead
    rw [hzero hds, List.replicate_zero, List.append_nil, hds]

-- ════════════════════════════════════════════════════════════════════════
-- Spellings
-- ════════════════════════════════════════════════════════════════════════

/-- The pieces of a written decimal: digits, digits behind a point, and an exponent as a sign and
    digits. Without digits behind it there is no point. -/
structure Spelling where
  whole : Text
  fraction : Text
  exponent : Option (Bool × Text)
  isWhole : IsWhole whole
  fraction_digits : ∀ c ∈ fraction, c.isDigit
  exponent_ne_nil : ∀ e ∈ exponent, e.2 ≠ []
  exponent_digits : ∀ e ∈ exponent, ∀ c ∈ e.2, c.isDigit

namespace Spelling

/-- The point with what stands behind it. -/
def point (p : Spelling) : Text :=
  if p.fraction = [] then [] else '.' :: p.fraction

/-- The exponent with its letter and its sign. -/
def power (p : Spelling) : Text :=
  match p.exponent with
  | none => []
  | some (negative, ds) => 'e' :: (if negative then '-' else '+') :: ds

/-- The text of a spelling. -/
def text (p : Spelling) : Text :=
  p.whole ++ (p.point ++ p.power)

/-- The value of the exponent. -/
def shift (p : Spelling) : Int :=
  match p.exponent with
  | none => 0
  | some (negative, ds) => if negative then -(natural ds : Int) else natural ds

/-- The decimal that a spelling denotes. -/
def scientific (p : Spelling) : Scientific :=
  ⟨natural (p.whole ++ p.fraction), p.shift - p.fraction.length⟩

variable (p : Spelling)

theorem power_cases : p.power = [] ∨ ∃ t, p.power = 'e' :: t := by
  unfold power
  split
  · exact .inl rfl
  · exact .inr ⟨_, rfl⟩

theorem stopsDigits_power (stop : StopsDigits rest) : StopsDigits (p.power ++ rest) := by
  obtain h | ⟨t, h⟩ := p.power_cases
  · rw [h]
    exact stop
  · rw [h]
    exact .cons rfl

theorem stopsDigits_point (stop : StopsDigits rest) :
    StopsDigits (p.point ++ (p.power ++ rest)) := by
  unfold point
  split
  · exact p.stopsDigits_power stop
  · exact .cons rfl

/-- A spelling starts with a digit. -/
theorem exists_cons : ∃ c t, p.text = c :: t ∧ c.isDigit := by
  obtain ⟨c, rest, hwhole⟩ := List.exists_cons_of_ne_nil p.isWhole.ne_nil
  refine ⟨c, rest ++ (p.point ++ p.power), by rw [text, hwhole, List.cons_append], ?_⟩
  exact p.isWhole.all c (hwhole ▸ List.mem_cons_self)

theorem readExponent?_power : readExponent? p.power = some p.shift := by
  unfold power shift
  cases he : p.exponent with
  | none => rfl
  | some e =>
    obtain ⟨negative, ds⟩ := e
    have hguard : (ds.isEmpty || !ds.all Char.isDigit) = false := by
      simpa using ⟨p.exponent_ne_nil _ he, p.exponent_digits _ he⟩
    have hsign : takeSign ((if negative then '-' else '+') :: ds) = (negative, ds) := by
      cases negative <;> rfl
    simp [readExponent?, hsign, hguard]

/-- Reading a spelling gives the decimal that it denotes. -/
theorem readScientific?_text : readScientific? p.text = some p.scientific := by
  have hpower : StopsDigits p.power := by simpa using p.stopsDigits_power .nil
  have hpoint : StopsDigits (p.point ++ p.power) := by simpa using p.stopsDigits_point .nil
  have htake : p.text.takeWhile Char.isDigit = p.whole := takeWhile_isDigit p.isWhole.all hpoint
  have hdrop : p.text.dropWhile Char.isDigit = p.point ++ p.power :=
    dropWhile_isDigit p.isWhole.all hpoint
  have hwhole : p.whole.isEmpty = false := by simpa using p.isWhole.ne_nil
  have hread : readExponent? p.power = some p.shift := p.readExponent?_power
  by_cases hfraction : p.fraction = []
  · have hpoint : p.point = [] := if_pos hfraction
    obtain h | ⟨t, h⟩ := p.power_cases
    · rw [h] at hread
      simp [readScientific?, htake, hdrop, hpoint, h, hwhole, hread, scientific, hfraction]
    · rw [h] at hread
      simp [readScientific?, htake, hdrop, hpoint, h, hwhole, hread, scientific, hfraction]
  · have hpoint : p.point ++ p.power = '.' :: (p.fraction ++ p.power) := by
      rw [point, if_neg hfraction, List.cons_append]
    have htake' : (p.fraction ++ p.power).takeWhile Char.isDigit = p.fraction :=
      takeWhile_isDigit p.fraction_digits hpower
    have hdrop' : (p.fraction ++ p.power).dropWhile Char.isDigit = p.power :=
      dropWhile_isDigit p.fraction_digits hpower
    simp [readScientific?, htake, hdrop, hpoint, htake', hdrop', hwhole, hread, scientific]

end Spelling

-- ════════════════════════════════════════════════════════════════════════
-- Layouts
-- ════════════════════════════════════════════════════════════════════════

namespace Layout

variable (l : Layout) {exponent : Int}

/-- A text is a spelling of a value as the layout wants it: where the layout keeps a fraction, the
    text is not a mere integer. -/
def Spells (l : Layout) (t : Text) (value : ℚ) : Prop :=
  ∃ p : Spelling, t = p.text ∧ p.scientific.value = value ∧
    (l.keepsFraction → p.fraction ≠ [] ∨ p.exponent.isSome)

/-- Digits without a point are a spelling, where the layout does not keep a fraction. -/
theorem spells_integer (h : IsWhole ds) (hkeep : ¬l.keepsFraction) :
    l.Spells ds (Scientific.value ⟨natural ds, 0⟩) := by
  refine ⟨⟨ds, [], none, h, by simp, by simp, by simp⟩, ?_, ?_, fun hk => absurd hk hkeep⟩
  · simp [Spelling.text, Spelling.point, Spelling.power]
  · simp [Spelling.scientific, Spelling.shift]

/-- Digits with a point among them are a spelling. -/
theorem spells_fraction {fraction : Text} (h : IsWhole ds) (hne : fraction ≠ [])
    (hall : ∀ c ∈ fraction, c.isDigit) :
    l.Spells (ds ++ '.' :: fraction)
      (Scientific.value ⟨natural (ds ++ fraction), -fraction.length⟩) := by
  refine ⟨⟨ds, fraction, none, h, hall, by simp, by simp⟩, ?_, ?_, fun _ => .inl hne⟩
  · simp [Spelling.text, Spelling.point, Spelling.power, hne]
  · simp [Spelling.scientific, Spelling.shift]

/-- A plain number is a spelling of it. -/
theorem spells_plain (h : IsWhole ds) (hzero : ds = ['0'] → exponent = 0) :
    l.Spells (l.plain ds exponent) (Scientific.value ⟨natural ds, exponent⟩) := by
  unfold plain
  split
  case h_1 e =>
    have hwhole : IsWhole (ds ++ List.replicate e '0') :=
      h.append_zeros fun hds => by simpa using hzero hds
    have hnatural : natural (ds ++ List.replicate e '0') = natural ds * 10 ^ e := by
      rw [natural_append, natural_zeros, List.length_replicate, Nat.add_zero]
    by_cases hkeep : l.keepsFraction
    · have hlast : natural (ds ++ List.replicate e '0' ++ ['0']) = natural ds * 10 ^ e * 10 := by
        rw [natural_append, hnatural]
        rfl
      have hspells := l.spells_fraction hwhole (List.cons_ne_nil '0' []) (by simp)
      rw [hlast] at hspells
      simpa [Scientific.value, hkeep] using hspells
    · have hspells := l.spells_integer hwhole hkeep
      rw [hnatural] at hspells
      simpa [Scientific.value, hkeep] using hspells
  case h_2 e =>
    dsimp only
    split
    case isTrue hplaces =>
      have hdrop : (ds.drop (ds.length - (e + 1))).length = e + 1 := by
        rw [List.length_drop]
        omega
      have hdrop_ne : ds.drop (ds.length - (e + 1)) ≠ [] := List.ne_nil_of_length_eq_add_one hdrop
      have hspells := l.spells_fraction (h.take (Nat.sub_pos_of_lt hplaces)) hdrop_ne
        fun c hc => h.all c (List.mem_of_mem_drop hc)
      rwa [List.take_append_drop, hdrop] at hspells
    case isFalse hplaces =>
      have hlength : (List.replicate (e + 1 - ds.length) '0' ++ ds).length = e + 1 := by
        rw [List.length_append, List.length_replicate]
        omega
      have hnatural : natural (['0'] ++ (List.replicate (e + 1 - ds.length) '0' ++ ds)) =
          natural ds := by
        have hzero : natural ['0'] = 0 := rfl
        rw [natural_append, natural_append, natural_zeros, hzero]
        omega
      have hdigits : ∀ c ∈ List.replicate (e + 1 - ds.length) '0' ++ ds, c.isDigit := by
        intro c hc
        obtain hc | hc := List.mem_append.mp hc
        · exact isDigit_of_mem_zeros hc
        · exact h.all c hc
      have hspells := l.spells_fraction (isWhole_digits 0)
        (List.append_ne_nil_of_right_ne_nil _ h.ne_nil) hdigits
      have hwhole : digits 0 = ['0'] := rfl
      rwa [hwhole, hnatural, hlength] at hspells

/-- A number with an exponent is a spelling of it. -/
theorem spells_withExponent (h : IsWhole ds) :
    l.Spells (l.withExponent ds (exponent + ds.length - 1))
      (Scientific.value ⟨natural ds, exponent⟩) := by
  obtain ⟨leading, hleading⟩ : ∃ n, n = exponent + ds.length - 1 := ⟨_, rfl⟩
  obtain ⟨c, rest, rfl⟩ := List.exists_cons_of_ne_nil h.ne_nil
  have hpower : natural (padded l.exponentWidth leading.natAbs) = leading.natAbs :=
    natural_padded _ _
  refine ⟨⟨[c], rest, some (decide (leading < 0), padded l.exponentWidth leading.natAbs),
    h.take Nat.one_pos, fun d hd => h.all d (List.mem_cons_of_mem c hd), ?_, ?_⟩, ?_, ?_,
    fun _ => .inr rfl⟩
  · intro e he
    cases he
    exact padded_ne_nil _ _
  · intro e he
    cases he
    exact fun _ => isDigit_of_mem_padded
  · rw [← hleading]
    cases rest with
    | nil => simp [withExponent, Spelling.text, Spelling.point, Spelling.power]
    | cons d rest => simp [withExponent, Spelling.text, Spelling.point, Spelling.power]
  · have hshift : (if decide (leading < 0) = true then -(leading.natAbs : Int)
        else leading.natAbs) = leading := by
      by_cases hneg : leading < 0
      · rw [if_pos (by simpa using hneg)]
        omega
      · rw [if_neg (by simpa using hneg)]
        omega
    simp only [Spelling.scientific, Spelling.shift, hpower, hshift, List.singleton_append]
    congr 2
    rw [hleading, List.length_cons]
    push_cast
    omega

/-- What a layout writes of a decimal is a spelling of it. -/
theorem spells_writeScientific {s : Scientific} (hs : s.coefficient ≠ 0) :
    l.Spells (l.writeScientific s) s.value := by
  have hvalue : s.value = Scientific.value ⟨natural (digits s.coefficient), s.exponent⟩ := by
    rw [natural_digits]
  rw [writeScientific, hvalue]
  split
  · refine l.spells_plain (isWhole_digits _) fun hzero => absurd ?_ (head?_digits hs)
    rw [hzero]
    rfl
  · exact l.spells_withExponent (isWhole_digits _)

end Layout

end Telemetry.Decimal
