import Telemetry.Regex.CharClass
import Telemetry.Regex.Node

/-!
# Flags

The flags of a pattern decide what its classes and places stand for, and whether blanks in it count.

## Main definitions

- `Regex.Flags` — the flags in force at a place of a pattern
- `Regex.Flags.skip` — a pattern from its next significant character on
- `Regex.Flags.fold`, `Regex.Flags.compl?` — case variants and complements under the flags
-/

namespace Telemetry.Regex

/-- The flags in force at a place of a pattern. -/
structure Flags where
  /-- `i`: letters match in either case. -/
  ignoreCase : Bool := false
  /-- `m`: `^` and `$` match at lines. -/
  multiLine : Bool := false
  /-- `s`: the dot matches line ends. -/
  dotAll : Bool := false
  /-- `U`: repetitions prefer few copies, and many if marked by `?`. -/
  swapGreed : Bool := false
  /-- `u`: classes are those of Unicode. -/
  unicode : Bool := true
  /-- `R`: a carriage return is part of a line end. -/
  crlf : Bool := false
  /-- `x`: blanks and comments in the pattern are skipped. -/
  verbose : Bool := false
  deriving DecidableEq, Repr

namespace Flags

/-- The flags with the one of a letter switched. -/
def set? (f : Flags) (letter : Char) (on : Bool) : Option Flags :=
  match letter with
  | 'i' => some { f with ignoreCase := on }
  | 'm' => some { f with multiLine := on }
  | 's' => some { f with dotAll := on }
  | 'U' => some { f with swapGreed := on }
  | 'u' => some { f with unicode := on }
  | 'R' => some { f with crlf := on }
  | 'x' => some { f with verbose := on }
  | _ => none

/-- A text without the blanks and comments at its start; `comment` tells that one is open. -/
def skipVerbose (comment : Bool) : Text → Text
  | [] => []
  | c :: t =>
    if comment then skipVerbose (c != '\n') t
    else if c == '#' then skipVerbose true t
    else if Text.isBlank c then skipVerbose false t
    else c :: t

/-- The rest of a pattern from its next significant character on. -/
def skip (f : Flags) (t : Text) : Text :=
  if f.verbose then skipVerbose false t else t

/-- A set with the case variants of its members, if case is ignored. -/
def fold (f : Flags) (s : CharSet) : CharSet :=
  if !f.ignoreCase then s
  else if f.unicode then CharClass.foldCase s
  else CharClass.foldAsciiCase s

/-- The complement of a set. Without Unicode it would be a set of bytes that are no text. -/
def compl? (f : Flags) (s : CharSet) : Option CharSet :=
  if f.unicode then some s.compl else none

/-- The alphabet of words. -/
def alphabet (f : Flags) : Alphabet :=
  if f.unicode then .unicode else .ascii

end Flags

end Telemetry.Regex
