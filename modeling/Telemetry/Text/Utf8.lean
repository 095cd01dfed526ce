import Telemetry.Text.Basic

/-!
# Reading UTF-8

Bytes are cut into characters and into faults. A fault is the longest run of bytes that starts a
well-formed sequence without finishing it, or else a single byte. Reading either replaces each fault
by one replacement character or refuses the bytes as a whole.

## Main definitions

- `Utf8.scan` — the characters of a byte sequence, with `none` in the place of each fault
- `Utf8.decodeLossy` — every fault read as U+FFFD
- `Utf8.decode?` — the text, if there is no fault
-/

namespace Telemetry.Utf8

/-- The character of a code point, or the replacement character if there is none. -/
def charOf (n : Nat) : Char :=
  if n.isValidChar then Char.ofNat n else '\uFFFD'

/-- What the first byte of a sequence announces: how many bytes follow, the bounds of the first of
    them, and the bits that the first byte contributes. -/
structure Lead where
  following : Nat
  low : Nat
  high : Nat
  bits : Nat

/-- The announcement of a first byte above the ASCII range. The bounds of the second byte leave out
    overlong forms, surrogates and code points beyond U+10FFFF. -/
def lead? (b : Nat) : Option Lead :=
  if 0xC2 ≤ b ∧ b ≤ 0xDF then some ⟨1, 0x80, 0xBF, b - 0xC0⟩
  else if b = 0xE0 then some ⟨2, 0xA0, 0xBF, 0⟩
  else if b = 0xED then some ⟨2, 0x80, 0x9F, b - 0xE0⟩
  else if 0xE1 ≤ b ∧ b ≤ 0xEF then some ⟨2, 0x80, 0xBF, b - 0xE0⟩
  else if b = 0xF0 then some ⟨3, 0x90, 0xBF, 0⟩
  else if 0xF1 ≤ b ∧ b ≤ 0xF3 then some ⟨3, 0x80, 0xBF, b - 0xF0⟩
  else if b = 0xF4 then some ⟨3, 0x80, 0x8F, b - 0xF0⟩
  else none

/-- The state of a scan: between characters, or inside a sequence with the number of bytes still to
    come, the bounds of the next one, and the bits gathered so far. -/
inductive State
  | ready
  | inside (missing low high bits : Nat)

/-- The characters of a byte sequence from a given state, with `none` for each fault. -/
def scanFrom : State → List UInt8 → List (Option Char)
  | .ready, [] => []
  | .inside .., [] => [none]
  | .ready, b :: bytes => start b.toNat bytes []
  | .inside missing low high bits, b :: bytes =>
    if low ≤ b.toNat ∧ b.toNat ≤ high then
      let bits := bits * 64 + b.toNat % 64
      if missing ≤ 1 then some (charOf bits) :: scanFrom .ready bytes
      else scanFrom (.inside (missing - 1) 0x80 0xBF bits) bytes
    else start b.toNat bytes [none]
where
  /-- Reads a byte that stands at the start of a sequence, after the entries `before`. -/
  start (b : Nat) (bytes : List UInt8) (before : List (Option Char)) : List (Option Char) :=
    if b < 0x80 then before ++ some (charOf b) :: scanFrom .ready bytes
    else
      match lead? b with
      | some l => before ++ scanFrom (.inside l.following l.low l.high l.bits) bytes
      | none => before ++ none :: scanFrom .ready bytes

/-- The characters of a byte sequence, with `none` in the place of each fault. -/
def scan (bytes : List UInt8) : List (Option Char) :=
  scanFrom .ready bytes

/-- The text of a byte sequence, with each fault replaced by U+FFFD. -/
def decodeLossy (bytes : List UInt8) : Text :=
  (scan bytes).map fun c? => c?.getD '\uFFFD'

/-- The text of a byte sequence that is well-formed UTF-8. -/
def decode? (bytes : List UInt8) : Option Text :=
  (scan bytes).mapM id

end Telemetry.Utf8
