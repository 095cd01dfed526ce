import Telemetry.Regex.CharSet

/-!
# Byte ranges

The UTF-8 encodings of a range of code points, as sequences of byte ranges: some bytes are the
encoding of a code point of the range just if they lie in the ranges of one of the sequences, in
order.

## Main definitions

- `Regex.encode` — the bytes of a code point
- `Regex.byteSequences` — the sequences of byte ranges for a range of code points, in increasing
  order

## Design notes

A range of code points with encodings of one length is cut where its bytes do not run freely: first
at the multiples of 64 next to its ends, then the inner part at the multiples of 64 times 64, and so
on. Each piece has one byte range at each position.
-/

namespace Telemetry.Regex

/-- A range of bytes, both ends included. -/
abbrev ByteRange := Nat × Nat

/-- The bytes of a code point. -/
def encode (n : Nat) : List Nat :=
  let low (k : Nat) : Nat := 0x80 + n / k % 64
  if n < 0x80 then [n]
  else if n < 0x800 then [0xC0 + n / 64, low 1]
  else if n < 0x10000 then [0xE0 + n / 4096, low 64, low 1]
  else [0xF0 + n / 262144, low 4096, low 64, low 1]

/-- The largest ranges of code points without surrogates whose encodings have one length, each
    behind the number of bytes that follow the first one. -/
def encodingBlocks : List (Nat × Nat × Nat) :=
  [(0, 0, 0x7F), (1, 0x80, 0x7FF), (2, 0x800, 0xD7FF), (2, 0xE000, 0xFFFF),
   (3, 0x10000, 0x10FFFF)]

/-- The pieces of a range, cut at multiples of 64 times `unit` next to its ends, and between these
    cuts at multiples of as many higher powers of 64 as there are levels. -/
def cut (levels unit : Nat) (lo hi : Nat) : List (Nat × Nat) :=
  match levels with
  | 0 => [(lo, hi)]
  | levels + 1 =>
    let unit := 64 * unit
    if lo / unit = hi / unit then [(lo, hi)]
    else
      let first := (lo + unit - 1) / unit * unit
      let last := (hi + 1) / unit * unit
      (if lo < first then [(lo, first - 1)] else []) ++
        (if first < last then cut levels unit first (last - 1) else []) ++
        (if last ≤ hi then [(last, hi)] else [])

/-- The sequences of byte ranges for a range of code points, in increasing order. -/
def byteSequences (r : Nat × Nat) : List (List ByteRange) :=
  encodingBlocks.flatMap fun (following, first, last) =>
    let lo := max r.1 first
    let hi := min r.2 last
    if lo ≤ hi then (cut following 1 lo hi).map fun (a, b) => (encode a).zip (encode b) else []

end Telemetry.Regex
