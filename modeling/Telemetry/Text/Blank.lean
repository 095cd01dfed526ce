import Telemetry.Text.Basic

/-!
# Blank characters

The characters with the Unicode property `White_Space`, and the two operations that depend on them:
trimming a text and cutting it into its fields.

## Main definitions

- `Text.isBlank` — membership in `White_Space`
- `Text.trim` — a text without blanks at both ends
- `Text.fields` — the maximal runs of characters that are not blank
-/

namespace Telemetry.Text

/-- The ranges of code points with the property `White_Space`, in increasing order. -/
def blankRanges : List (Nat × Nat) :=
  [(0x9, 0xD), (0x20, 0x20), (0x85, 0x85), (0xA0, 0xA0), (0x1680, 0x1680), (0x2000, 0x200A),
   (0x2028, 0x2029), (0x202F, 0x202F), (0x205F, 0x205F), (0x3000, 0x3000)]

/-- Whether a character has the property `White_Space`. -/
def isBlank (c : Char) : Bool :=
  blankRanges.any fun (lo, hi) => lo ≤ c.toNat && c.toNat ≤ hi

/-- A text without blanks at both ends. -/
def trim (t : Text) : Text :=
  strip isBlank t

/-- The fields of a text: the maximal runs of characters that are not blank. -/
def fields (t : Text) : List Text :=
  (splitWhere isBlank t).filter fun piece => !piece.isEmpty

end Telemetry.Text
