import Telemetry.Decimal.Reader
import Telemetry.Regex.Bracket
import Telemetry.Regex.Footprint
import Telemetry.Regex.Unicode.Addition

/-!
# Reading regular expressions

The syntax of regular expressions: literals and escapes, classes, groups, flags, places and
repetitions. There are no look-around assertions and no back references.

## Main definitions

- `Regex.readCount`, `Regex.readName`, `Regex.readFlags` — the parts of repetitions and groups
- `Regex.Reading` — the state of reading an expression
- `Regex.Node.parse?` — the expression that a pattern spells, if it is well-formed

## Design notes

Flags hold from where they are set to the end of the group around them, across its alternatives, so
they are resolved while reading. Nesting is counted as it is written: a group, a repetition, a
class, a sequence of several items and a choice of several branches are one level each.
-/

namespace Telemetry.Regex

-- ════════════════════════════════════════════════════════════════════════
-- Counts
-- ════════════════════════════════════════════════════════════════════════

/-- The digits at the start of a text, and what follows them. -/
def digitsSkipping (f : Flags) (comment : Bool) : Text → Text × Text
  | [] => ([], [])
  | c :: t =>
    if comment then digitsSkipping f (c != '\n') t
    else if f.verbose && c == '#' then digitsSkipping f true t
    else if f.verbose && Text.isBlank c then digitsSkipping f false t
    else if c.isDigit then
      let (ds, rest) := digitsSkipping f false t
      (c :: ds, rest)
    else ([], c :: t)

/-- A number of at most 32 bits with blanks around it, and what follows it. -/
def readNumber (f : Flags) (t : Text) : Option (Nat × Text) :=
  let (ds, rest) := digitsSkipping f false (t.dropWhile Text.isBlank)
  let n := Decimal.natural ds
  if ds.isEmpty || UInt32.size ≤ n then none else some (n, rest.dropWhile Text.isBlank)

/-- The bounds of a counted repetition behind its brace, and what follows them. -/
def readCount (f : Flags) (t : Text) : Option ((Nat × Option Nat) × Text) := do
  let (min, rest) ← readNumber f (f.skip t)
  match rest with
  | '}' :: r => some ((min, some min), r)
  | ',' :: r =>
    match f.skip r with
    | '}' :: r => some ((min, none), r)
    | r => do
      let (max, rest) ← readNumber f r
      match rest with
      | '}' :: r => if min ≤ max then some ((min, some max), r) else none
      | _ => none
  | _ => none

-- ════════════════════════════════════════════════════════════════════════
-- Groups
-- ════════════════════════════════════════════════════════════════════════

/-- The letters that a name of a group may hold. -/
def nameLetters : Unit → CharSet := fun _ =>
  (CharClass.alphabetic ()).union (.parse Unicode.addedLetters)

/-- The numbers that a name of a group may hold behind its first character. -/
def nameNumbers : Unit → CharSet := fun _ =>
  CharClass.withCategories ["nd", "nl", "no"] Unicode.addedNumbers

/-- Whether a character may stand in the name of a group. -/
def isNameChar (first : Bool) (c : Char) : Bool :=
  if first then c == '_' || (nameLetters ()).contains c
  else
    c == '_' || c == '.' || c == '[' || c == ']' || (nameLetters ()).contains c ||
      (nameNumbers ()).contains c

/-- The name of a group up to its closing angle, and what follows it. -/
def readName (t : Text) : Option (Text × Text) :=
  let name := t.takeWhile (· != '>')
  match t.dropWhile (· != '>'), name with
  | '>' :: rest, c :: cs =>
    if isNameChar true c && cs.all (isNameChar false) then some (name, rest) else none
  | _, _ => none

/-- Flags up to a colon or a closing parenthesis: the flags, whether there were any, the character
    that ended them, and what follows it. A letter may stand once, a minus sign once and not at the
    end. -/
def readFlags (f : Flags) (seen : List Char) : Text → Option (Flags × Bool × Char × Text)
  | [] => none
  | c :: t =>
    if c == ':' || c == ')' then
      if seen.head? == some '-' then none else some (f, !seen.isEmpty, c, t)
    else if seen.contains c then none
    else if c == '-' then readFlags f (c :: seen) t
    else
      match f.set? c (!seen.contains '-') with
      | some f => readFlags f (c :: seen) t
      | none => none

-- ════════════════════════════════════════════════════════════════════════
-- Expressions
-- ════════════════════════════════════════════════════════════════════════

/-- A part of an expression: what it matches, how deeply it is nested, and whether it can be
    repeated. -/
structure Piece where
  node : Node
  depth : Nat := 0
  repeatable : Bool := true

/-- The pieces of a sequence, the last one first, as one piece. -/
def Piece.sequence (pieces : List Piece) : Piece :=
  match pieces with
  | [] => { node := .empty, repeatable := false }
  | [p] => p
  | ps =>
    { node := Node.seqAll (ps.reverse.map Piece.node)
      depth := 1 + (ps.map Piece.depth).foldl max 0 }

/-- The branches of a choice, the last one first, as one piece. -/
def Piece.choice (pieces : List Piece) : Piece :=
  match pieces with
  | [p] => p
  | ps =>
    { node := Node.altAll (ps.reverse.map Piece.node)
      depth := 1 + (ps.map Piece.depth).foldl max 0 }

/-- A group that is being read: its number if it has one, and what to go on with behind it. -/
structure OpenGroup where
  index : Option Nat
  flags : Flags
  items : List Piece
  branches : List Piece

/-- The state of reading an expression: the flags in force, the items of the current branch and the
    earlier branches, both the last one first, the groups around, and the groups named so far. -/
structure Reading where
  flags : Flags := {}
  items : List Piece := []
  branches : List Piece := []
  outer : List OpenGroup := []
  groups : Nat := 0
  names : List Text := []

namespace Reading

/-- The state with one more item. -/
def add (s : Reading) (node : Node) (depth : Nat := 0) (repeatable : Bool := true) : Reading :=
  { s with items := ⟨node, depth, repeatable⟩ :: s.items }

/-- The piece that has been read of the current group. -/
def piece (s : Reading) : Piece :=
  Piece.choice (Piece.sequence s.items :: s.branches)

/-- The state with a repetition of its last item. -/
def repeated? (s : Reading) (min : Nat) (max : Option Nat) (lazy : Bool) : Option Reading :=
  match s.items with
  | p :: items =>
    if p.repeatable then
      let greedy := lazy == s.flags.swapGreed
      some { s with items := ⟨.repeated min max greedy p.node, p.depth + 1, true⟩ :: items }
    else none
  | [] => none

/-- The state inside a new group. -/
def enter (s : Reading) (index : Option Nat) (flags : Flags) : Reading :=
  { s with
    flags := flags
    items := []
    branches := []
    outer := ⟨index, s.flags, s.items, s.branches⟩ :: s.outer
    groups := index.getD s.groups }

/-- The state behind the current group. -/
def leave? (s : Reading) : Option Reading :=
  match s.outer with
  | [] => none
  | g :: outer =>
    let p := s.piece
    let node := match g.index with
      | some i => .group i p.node
      | none => p.node
    some
      { s with
        flags := g.flags
        items := ⟨node, p.depth + 1, true⟩ :: g.items
        branches := g.branches
        outer := outer }

/-- The state inside a new named group. -/
def enterNamed? (s : Reading) (t : Text) : Option (Reading × Text) := do
  let (name, rest) ← readName t
  if s.names.contains name then none
  else some ({ s with names := name :: s.names }.enter (some (s.groups + 1)) s.flags, rest)

/-- The state behind an opening parenthesis and what qualifies it. -/
def openGroup? (s : Reading) (t : Text) : Option (Reading × Text) :=
  match s.flags.skip t with
  | '?' :: '=' :: _ => none
  | '?' :: '!' :: _ => none
  | '?' :: '<' :: '=' :: _ => none
  | '?' :: '<' :: '!' :: _ => none
  | '?' :: 'P' :: '<' :: r => s.enterNamed? r
  | '?' :: '<' :: r => s.enterNamed? r
  | '?' :: r => do
    let (flags, any, last, rest) ← readFlags s.flags [] r
    if last == ':' then some (s.enter none flags, rest)
    else if any then some ({ s with flags := flags }.add .empty 0 false, rest)
    else none
  | r => some (s.enter (some (s.groups + 1)) s.flags, r)

/-- The set of a literal character. -/
def literal (s : Reading) (c : Char) : Reading :=
  s.add (.chars (s.flags.fold (.single c)))

/-- The set of the dot. -/
def dot? (s : Reading) : Option CharSet :=
  let f := s.flags
  if !f.unicode then none
  else if f.dotAll then some .all
  else if f.crlf then some (CharSet.ofRanges [(0xA, 0xA), (0xD, 0xD)]).compl
  else some (CharSet.single '\n').compl

/-- The place that `^` stands for. -/
def caret (s : Reading) : Look :=
  if !s.flags.multiLine then .textStart else if s.flags.crlf then .lineStartCrlf else .lineStart

/-- The place that `$` stands for. -/
def dollar (s : Reading) : Look :=
  if !s.flags.multiLine then .textEnd else if s.flags.crlf then .lineEndCrlf else .lineEnd

/-- Takes the mark behind a repetition that inverts its preference. -/
def takeLazy : Text → Bool × Text
  | '?' :: t => (true, t)
  | t => (false, t)

/-- The state behind the next item of a pattern, and what follows it. -/
def step? (s : Reading) : Text → Option (Reading × Text)
  | [] => none
  | c :: t =>
    let repetition (min : Nat) (max : Option Nat) (t : Text) : Option (Reading × Text) :=
      let (lazy, rest) := takeLazy t
      (s.repeated? min max lazy).map fun s => (s, rest)
    match c with
    | '(' => s.openGroup? t
    | ')' => s.leave?.map fun s => (s, t)
    | '|' => some ({ s with items := [], branches := Piece.sequence s.items :: s.branches }, t)
    | '[' => do
      let (set, depth, rest) ← readClass s.flags t
      return (s.add (.chars set) depth, rest)
    | '?' => repetition 0 (some 1) t
    | '*' => repetition 0 none t
    | '+' => repetition 1 none t
    | '{' => do
      let ((min, max), rest) ← readCount s.flags t
      repetition min max (s.flags.skip rest)
    | '.' => s.dot?.map fun set => (s.add (.chars set), t)
    | '^' => some (s.add (.look s.caret), t)
    | '$' => some (s.add (.look s.dollar), t)
    | '\\' => do
      let (e, rest) ← readEscape s.flags t
      match e with
      | .char c => some (s.literal c, rest)
      | .set set => some (s.add (.chars set), rest)
      | .look l => some (s.add (.look l), rest)
    | c => some (s.literal c, t)

/-- The piece of a whole pattern. -/
def run? (fuel : Nat) (s : Reading) (t : Text) : Option Piece :=
  match fuel with
  | 0 => none
  | fuel + 1 =>
    match s.flags.skip t with
    | [] => if s.outer.isEmpty then some s.piece else none
    | t =>
      match s.step? t with
      | some (s, rest) => run? fuel s rest
      | none => none

end Reading

/-- The greatest depth of nesting. -/
def maxDepth : Nat := 250

/-- The expression that a pattern spells, if it is well-formed and not too large. -/
def Node.parse? (pattern : Text) : Option Node := do
  let p ← Reading.run? (pattern.length + 1) {} pattern
  if p.depth ≤ maxDepth ∧ !p.node.isTooLarge then some p.node else none

end Telemetry.Regex
