import Telemetry.Proofs.Decimal.Exponential
import Telemetry.Proofs.Text.Stripping
import Telemetry.Value

/-!
# Canonical texts read back

A value that was parsed from a token has a canonical text, and parsing that text gives the value
again: a number with all its bits, a text as it stands. For numbers this is the round trip of
writing and reading, once it is known that nothing of a written number is padding. For texts it is
that what was stripped once has nothing more to strip.

## Main statements

- `Value.parse_canonical_number` — the canonical text of a number is parsed to the number
- `Value.parse_of_parse_eq_text` — a text that was parsed is parsed to itself
- `Value.parse_padded` — padding around a token makes no difference
- `Value.parse_canonical` — all of this, in bits
-/

namespace Telemetry.Value

open Decimal

-- ════════════════════════════════════════════════════════════════════════
-- Numbers
-- ════════════════════════════════════════════════════════════════════════

theorem isPadding_of_isNumeric {c : Char} (h : IsNumeric c) : isPadding c = false := by
  rw [Bool.eq_false_iff]
  intro hpadding
  simp only [isPadding_iff, List.mem_cons, List.not_mem_nil, or_false] at hpadding
  revert h
  obtain rfl | rfl | rfl | rfl | rfl := hpadding <;> simp [IsNumeric]

/-- The canonical text of a number is parsed to the number. -/
theorem parse_canonical_number (x : Float) : parse (number x).canonical = .number x := by
  have hstrip : (number x).canonical.strip isPadding = (number x).canonical := by
    have hnone : ∀ c ∈ (number x).canonical, isPadding c = false :=
      fun c hc => isPadding_of_isNumeric (Layout.isNumeric_of_mem_write hc)
    rw [Text.strip_eq_self_iff]
    exact ⟨fun c hc => hnone c (List.mem_of_mem_head? hc),
      fun c hc => hnone c (List.mem_of_getLast? hc)⟩
  have hread : read? (number x).canonical = some x := read?_write Decimal.canonical x
  simp only [parse, hstrip, hread]

-- ════════════════════════════════════════════════════════════════════════
-- Tokens
-- ════════════════════════════════════════════════════════════════════════

variable {token t : Text}

theorem parse_eq_text_iff :
    parse token = .text t ↔ token.strip isPadding = t ∧ read? t = none := by
  simp only [parse]
  split
  case h_1 x hread =>
    constructor
    · intro h
      cases h
    · rintro ⟨rfl, hnone⟩
      rw [hread] at hnone
      cases hnone
  case h_2 hread =>
    constructor
    · intro h
      cases h
      exact ⟨rfl, hread⟩
    · rintro ⟨rfl, -⟩
      rfl

/-- A text that was parsed is parsed to itself. -/
theorem parse_of_parse_eq_text (h : parse token = .text t) : parse t = .text t := by
  obtain ⟨hstrip, hread⟩ := parse_eq_text_iff.mp h
  rw [parse_eq_text_iff]
  refine ⟨?_, hread⟩
  rw [← hstrip]
  exact Text.strip_strip isPadding token

/-- Padding around a token makes no difference. -/
theorem parse_padded {before after : Text} (hbefore : ∀ c ∈ before, isPadding c)
    (hafter : ∀ c ∈ after, isPadding c) : parse (before ++ token ++ after) = parse token := by
  simp only [parse, Text.strip_padded hbefore hafter]

/-- A value that was parsed has a canonical text that is parsed to it. -/
theorem parse_canonical_parse (token : Text) : parse (parse token).canonical = parse token := by
  cases h : parse token with
  | number x => exact parse_canonical_number x
  | text t => exact parse_of_parse_eq_text h

-- ════════════════════════════════════════════════════════════════════════
-- Bits
-- ════════════════════════════════════════════════════════════════════════

/-- Canonical texts read back: numbers with all their bits, what is not a number as that, and parsed
    texts as they are. So parsing what a token is called gives what the token is parsed to, and
    padding makes no difference to it. In writing a number no fallback is ever taken. -/
theorem parse_canonical :
    (∀ bits : UInt64, ¬ IsNaNBits bits →
      ∃ x, parse (number (Float.ofBits bits)).canonical = .number x ∧ x.toBits = bits) ∧
    (∀ bits : UInt64, IsNaNBits bits →
      ∃ x, parse (number (Float.ofBits bits)).canonical = .number x ∧ IsNaNBits x.toBits) ∧
    (∀ token t, parse token = .text t → parse t = .text t) ∧
    (∀ token, parse (parse token).canonical = parse token) ∧
    (∀ before token after : Text, (∀ c ∈ before, isPadding c) → (∀ c ∈ after, isPadding c) →
      parse (before ++ token ++ after) = parse token) ∧
    ∀ x, assemble x = .ok (number x).canonical := by
  refine ⟨?_, ?_, ?_, ?_, ?_, ?_⟩
  · intro bits hbits
    exact ⟨_, parse_canonical_number _, toBits_ofBits hbits⟩
  · intro bits hbits
    exact ⟨_, parse_canonical_number _, isNaNBits_toBits_ofBits hbits⟩
  · intro token t h
    exact parse_of_parse_eq_text h
  · exact parse_canonical_parse
  · intro before token after hbefore hafter
    exact parse_padded hbefore hafter
  · exact assemble_eq

/-- The least positive double, a pattern of bits without number, the name of a network interface
    with its colon, and a number between blanks. -/
theorem parse_canonical_samples :
    (¬ IsNaNBits 1 ∧
      ∃ x, parse (number (Float.ofBits 1)).canonical = .number x ∧ x.toBits = 1) ∧
    (IsNaNBits 0xFFF8000000000001 ∧
      ∃ x, parse (number (Float.ofBits 0xFFF8000000000001)).canonical = .number x ∧
        IsNaNBits x.toBits) ∧
    (parse "eth0:".toList = .text "eth0".toList ∧
      parse "eth0".toList = .text "eth0".toList) ∧
    ((∀ c ∈ [' ', '\t'], isPadding c) ∧ (∀ c ∈ [' ', '\n'], isPadding c) ∧
      parse ([' ', '\t'] ++ "42".toList ++ [' ', '\n']) = parse "42".toList) := by
  have hleast : ¬ IsNaNBits 1 := by decide
  have hnan : IsNaNBits 0xFFF8000000000001 := by decide
  have hname : parse "eth0:".toList = .text "eth0".toList := by rfl
  have hbefore : ∀ c ∈ [' ', '\t'], isPadding c := by simp [isPadding_iff]
  have hafter : ∀ c ∈ [' ', '\n'], isPadding c := by simp [isPadding_iff]
  obtain ⟨hbits, hnanBits, htext, -, hpadded, -⟩ := parse_canonical
  exact ⟨⟨hleast, hbits 1 hleast⟩, ⟨hnan, hnanBits _ hnan⟩, ⟨hname, htext _ _ hname⟩,
    ⟨hbefore, hafter, hpadded _ _ _ hbefore hafter⟩⟩

end Telemetry.Value
