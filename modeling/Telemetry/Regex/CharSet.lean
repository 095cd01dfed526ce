/-!
# Character sets

A set of characters is a list of ranges of code points in increasing order, with a gap between
neighbours. Surrogates are no characters and belong to no set.

## Main definitions

- `CharSet` — a set of characters
- `CharSet.union`, `CharSet.inter`, `CharSet.diff`, `CharSet.symmDiff`, `CharSet.compl` — the
  algebra
- `CharSet.parse` — the set of a table text such as `41-5A 5F`
- `CharSet.Index`, `CharSet.Index.contains` — membership by bisection
-/

namespace Telemetry

/-- A set of characters, as increasing ranges of code points. -/
structure CharSet where
  ranges : List (Nat × Nat)
  deriving DecidableEq, Repr

namespace CharSet

/-- The empty set. -/
def empty : CharSet := ⟨[]⟩

/-- The set of all characters. -/
def all : CharSet := ⟨[(0, 0xD7FF), (0xE000, 0x10FFFF)]⟩

/-- Whether a set is empty. -/
def isEmpty (s : CharSet) : Bool := s.ranges.isEmpty

/-- Joins ranges that overlap or touch, in a list ordered by their lower ends. -/
def joinRanges : List (Nat × Nat) → List (Nat × Nat)
  | [] => []
  | r :: rest => go r rest
where
  go (current : Nat × Nat) : List (Nat × Nat) → List (Nat × Nat)
    | [] => [current]
    | r :: rest =>
      if r.1 ≤ current.2 + 1 then go (current.1, max current.2 r.2) rest
      else current :: go r rest

/-- The gaps before, between and behind increasing ranges, from a given code point on. -/
def gaps (start : Nat) : List (Nat × Nat) → List (Nat × Nat)
  | [] => if start ≤ 0x10FFFF then [(start, 0x10FFFF)] else []
  | (lo, hi) :: rest =>
    if start < lo then (start, lo - 1) :: gaps (hi + 1) rest else gaps (hi + 1) rest

/-- The ranges without the surrogates. -/
def withoutSurrogates (ranges : List (Nat × Nat)) : List (Nat × Nat) :=
  ranges.flatMap fun (lo, hi) =>
    (if lo ≤ min hi 0xD7FF then [(lo, min hi 0xD7FF)] else []) ++
      (if max lo 0xE000 ≤ hi then [(max lo 0xE000, hi)] else [])

/-- The set of the characters in any of some ranges. -/
def ofRanges (ranges : List (Nat × Nat)) : CharSet :=
  ⟨joinRanges ((withoutSurrogates ranges).mergeSort fun a b => a.1 ≤ b.1)⟩

/-- The set of one character. -/
def single (c : Char) : CharSet := ⟨[(c.toNat, c.toNat)]⟩

/-- The set of the characters between two, both included. -/
def range (lo hi : Char) : CharSet := ofRanges [(lo.toNat, hi.toNat)]

/-- The characters of either set. -/
def union (s t : CharSet) : CharSet := ofRanges (s.ranges ++ t.ranges)

/-- The characters that are not in a set. -/
def compl (s : CharSet) : CharSet := ⟨withoutSurrogates (gaps 0 s.ranges)⟩

/-- The characters of both sets. -/
def inter (s t : CharSet) : CharSet := (s.compl.union t.compl).compl

/-- The characters of the first set that are not in the second. -/
def diff (s t : CharSet) : CharSet := s.inter t.compl

/-- The characters of exactly one of two sets. -/
def symmDiff (s t : CharSet) : CharSet := (s.diff t).union (t.diff s)

/-- Whether all characters of a set are in the ASCII range. -/
def isAscii (s : CharSet) : Bool := s.ranges.all fun r => r.2 < 0x80

/-- The only code point of a set that has just one. -/
def single? (s : CharSet) : Option Nat :=
  match s.ranges with
  | [(lo, hi)] => if lo = hi then some lo else none
  | _ => none

/-- Whether a character is in a set. -/
def contains (s : CharSet) (c : Char) : Bool :=
  s.ranges.any fun (lo, hi) => lo ≤ c.toNat && c.toNat ≤ hi

-- ════════════════════════════════════════════════════════════════════════
-- Table texts
-- ════════════════════════════════════════════════════════════════════════

/-- The number of a text of hexadecimal digits. -/
def hexadecimal (t : List Char) : Nat :=
  t.foldl (fun n c => 16 * n + (if c.isDigit then c.toNat - 48 else c.toUpper.toNat - 55)) 0

/-- The ranges of a table text, from a state that holds the start of a range, if one is being read,
    and the digits of the number being read, in reverse. -/
def rangesOfTable (lo : Option Nat) (digits : List Char) : List Char → List (Nat × Nat)
  | [] => range
  | c :: rest =>
    if c = ' ' ∨ c = '\n' then range ++ rangesOfTable none [] rest
    else if c = '-' then rangesOfTable (some (hexadecimal digits.reverse)) [] rest
    else rangesOfTable lo (c :: digits) rest
where
  /-- The range that ends with the number read last, if there is one. -/
  range : List (Nat × Nat) :=
    if digits.isEmpty then []
    else
      let hi := hexadecimal digits.reverse
      [(lo.getD hi, hi)]

/-- The set of a table text: hexadecimal code points and ranges of them between blanks. -/
def parse (table : String) : CharSet :=
  ofRanges (rangesOfTable none [] table.toList)

-- ════════════════════════════════════════════════════════════════════════
-- Fast membership
-- ════════════════════════════════════════════════════════════════════════

/-- The ranges of a set in an array, for look-ups by bisection. -/
structure Index where
  ranges : Array (Nat × Nat)

/-- The index of a set. -/
def index (s : CharSet) : Index := ⟨s.ranges.toArray⟩

/-- Whether a code point is in one of the ranges from `lo` to below `hi`. -/
def Index.search (i : Index) (n : Nat) (lo hi : Nat) : Bool :=
  if lo < hi then
    let mid := (lo + hi) / 2
    match i.ranges[mid]? with
    | none => false
    | some (a, b) =>
      if n < a then search i n lo mid
      else if b < n then search i n (mid + 1) hi
      else true
  else false
  termination_by hi - lo
  decreasing_by all_goals omega

/-- Whether a character is in the set of an index. -/
def Index.contains (i : Index) (c : Char) : Bool :=
  i.search c.toNat 0 i.ranges.size

end CharSet

end Telemetry
