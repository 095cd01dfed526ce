import Mathlib.Tactic.SplitIfs
import Telemetry.Text.Basic

/-!
# The order of bytes

Texts in the order of their characters are in the order of the bytes of their UTF-8 forms. The form
of a character was designed for this: the first byte grows with the length of the form, and forms of
the same length have the digits of the code point to the base sixty-four in their bytes.

## Main definitions

- `Text.bytes` — the UTF-8 form of a text

## Main statements

- `Text.bytes_lt_bytes` — the order of characters is the order of bytes
-/

namespace Telemetry.Text

/-- The bytes of the UTF-8 form of a text. -/
def bytes (t : Text) : List UInt8 :=
  t.flatMap String.utf8EncodeChar

/-- The forms of different characters differ at some byte, in the order of the characters. -/
theorem utf8EncodeChar_lt {c d : Char} (h : c < d) (s t : List UInt8) :
    String.utf8EncodeChar c ++ s < String.utf8EncodeChar d ++ t := by
  have hlt : c.val.toNat < d.val.toNat := UInt32.lt_iff_toNat_lt.mp h
  have hlast : d.val.toNat < 0x110000 := by
    have hvalid := d.valid
    unfold UInt32.isValidChar Nat.isValidChar at hvalid
    omega
  have hdigits : ∀ n : Nat, n / 4096 = n / 64 / 64 ∧ n / 262144 = n / 64 / 64 / 64 := by omega
  unfold String.utf8EncodeChar
  dsimp only
  rw [(hdigits c.val.toNat).1, (hdigits c.val.toNat).2, (hdigits d.val.toNat).1,
    (hdigits d.val.toNat).2]
  -- Forms of different lengths differ in their first bytes, others in some digit.
  split_ifs
  all_goals
    simp only [List.cons_append, List.nil_append, List.cons_lt_cons_iff, UInt8.lt_iff_toNat_lt,
      ← UInt8.toNat_inj, UInt8.toNat_ofNat']
    omega

/-- Texts in the order of their characters are in the order of their bytes. -/
theorem bytes_lt_bytes {a b : Text} (h : a < b) : bytes a < bytes b := by
  induction a generalizing b with
  | nil =>
    cases b with
    | nil => cases h
    | cons d b =>
      obtain ⟨byte, rest, hform⟩ : ∃ byte rest, String.utf8EncodeChar d = byte :: rest := by
        unfold String.utf8EncodeChar
        dsimp only
        split_ifs <;> exact ⟨_, _, rfl⟩
      rw [bytes, bytes, List.flatMap_nil, List.flatMap_cons, hform]
      exact List.nil_lt_cons _ _
  | cons c a ih =>
    cases b with
    | nil => cases h
    | cons d b =>
      rw [bytes, bytes, List.flatMap_cons, List.flatMap_cons]
      obtain hlt | ⟨rfl, hlt⟩ := List.cons_lt_cons_iff.mp h
      · exact utf8EncodeChar_lt hlt _ _
      · exact List.append_left_lt (ih hlt)

end Telemetry.Text
