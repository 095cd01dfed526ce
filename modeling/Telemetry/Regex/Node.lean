import Telemetry.Regex.CharSet

/-!
# Regular expressions

A regular expression as a tree, with all flags resolved: what has to be matched, and in which order
alternatives and repetition counts are preferred.

## Main definitions

- `Regex.Look` — conditions on the place of a match
- `Regex.Node` — a regular expression
- `Regex.Node.repeated` — a repetition, simplified where its operand matches the empty text only
- `Regex.Node.seqAll`, `Regex.Node.altAll` — sequences and choices, simplified as well
- `Regex.Node.minLength` — the length of the shortest match

## Design notes

Groups are numbered from one in the order of their opening parentheses. A repetition of at most zero
times disappears together with the groups inside it.

Sequences and choices are kept in a normal form: neither is nested in its like, a sequence has no
empty parts, sets that are the only branches of a choice are one set, and what all branches of a
choice begin with stands in front of it.
-/

namespace Telemetry.Regex

/-- Which characters belong to words. -/
inductive Alphabet
  | ascii
  | unicode
  deriving DecidableEq, Repr

/-- A condition on a place between two characters. -/
inductive Look
  | textStart
  | textEnd
  /-- At the start of the text or behind a line feed. -/
  | lineStart
  /-- At the end of the text or before a line feed. -/
  | lineEnd
  /-- As `lineStart`, where a carriage return and both together end lines too. -/
  | lineStartCrlf
  | lineEndCrlf
  | wordBoundary (a : Alphabet)
  | notWordBoundary (a : Alphabet)
  | wordStart (a : Alphabet)
  | wordEnd (a : Alphabet)
  /-- Not behind a word character. -/
  | wordStartHalf (a : Alphabet)
  /-- Not before a word character. -/
  | wordEndHalf (a : Alphabet)
  deriving DecidableEq, Repr

/-- A regular expression. -/
inductive Node
  | empty
  /-- One character of a set. -/
  | chars (set : CharSet)
  | look (l : Look)
  | group (index : Nat) (inner : Node)
  /-- One expression behind the other. -/
  | seq (first second : Node)
  /-- One of two expressions, preferably the first. -/
  | alt (first second : Node)
  /-- A number of copies from `min` to `max`, preferably many if `greedy` and else few. -/
  | repetition (min : Nat) (max : Option Nat) (greedy : Bool) (inner : Node)
  deriving DecidableEq, Repr

namespace Node

/-- Whether an expression matches no text but the empty one. -/
def isEmptyOnly : Node → Bool
  | empty => true
  | chars _ => false
  | look _ => true
  | group _ n => n.isEmptyOnly
  | seq a b => a.isEmptyOnly && b.isEmptyOnly
  | alt a b => a.isEmptyOnly && b.isEmptyOnly
  | repetition _ _ _ n => n.isEmptyOnly

/-- The number of characters in a shortest match, or nothing where an expression without any match
    takes part. -/
def minLength : Node → Option Nat
  | empty => some 0
  | chars s => if s.isEmpty then none else some 1
  | look _ => some 0
  | group _ n => n.minLength
  | seq a b => do return (← a.minLength) + (← b.minLength)
  | alt a b => do return min (← a.minLength) (← b.minLength)
  | repetition least _ _ n => n.minLength.map (least * ·)

/-- Whether every match of an expression has a character. -/
def needsText (n : Node) : Bool :=
  0 < n.minLength.getD 0

/-- A repetition. An expression that matches the empty text only is tried at most once. -/
def repeated (min : Nat) (max : Option Nat) (greedy : Bool) (n : Node) : Node :=
  let (min, max) :=
    if n.isEmptyOnly then (Nat.min min 1, some ((max.map fun m => Nat.min m 1).getD 1))
    else (min, max)
  if min = 0 ∧ max = some 0 then .empty
  else if min = 1 ∧ max = some 1 then n
  else .repetition min max greedy n

-- ════════════════════════════════════════════════════════════════════════
-- Sequences
-- ════════════════════════════════════════════════════════════════════════

/-- Whether an expression is a single character. -/
def isLetter : Node → Bool
  | chars s => s.single?.isSome
  | _ => false

/-- The parts of a sequence, without empty ones. -/
def parts : Node → List Node
  | empty => []
  | seq a b => a.parts ++ b.parts
  | n => [n]

/-- The sequence of some parts. -/
def ofParts : List Node → Node
  | [] => .empty
  | [n] => n
  | n :: ns => .seq n (ofParts ns)

/-- The expressions one behind the other. -/
def seqAll (ns : List Node) : Node :=
  ofParts (ns.flatMap parts)

/-- The parts of a sequence, with neighbouring characters as one part. -/
def phrases (n : Node) : List Node :=
  (n.parts.splitBy fun a b => a.isLetter && b.isLetter).map ofParts

-- ════════════════════════════════════════════════════════════════════════
-- Choices
-- ════════════════════════════════════════════════════════════════════════

/-- The branches of a choice. -/
def branches : Node → List Node
  | alt a b => a.branches ++ b.branches
  | n => [n]

/-- The choice between some branches. -/
def ofBranches : List Node → Node
  | [] => .empty
  | [n] => n
  | n :: ns => .alt n (ofBranches ns)

/-- The set of an expression that matches one character. -/
def set? : Node → Option CharSet
  | chars s => some s
  | _ => none

/-- The set that some branches make up, if all are single characters or all are other sets. -/
def joined? (ns : List Node) : Option CharSet :=
  if ns.all isLetter || !ns.any isLetter then
    (ns.mapM set?).map fun sets => .ofRanges (sets.flatMap CharSet.ranges)
  else none

/-- What two lists begin with in common. -/
def commonStart : List Node → List Node → List Node
  | a :: as, b :: bs => if a = b then a :: commonStart as bs else []
  | _, _ => []

/-- The phrases with which each of some sequences of several phrases begins. -/
def commonPhrases (rows : List (List Node)) : List Node :=
  match rows with
  | [] => []
  | row :: rest => if rows.all (1 < ·.length) then rest.foldl commonStart row else []

/-- One of the expressions, preferably an early one. -/
def altAll (ns : List Node) : Node :=
  let choices := ns.flatMap branches
  match joined? choices with
  | some s => .chars s
  | none =>
    let rows := choices.map phrases
    match commonPhrases rows with
    | [] => ofBranches choices
    | lead =>
      let rest := (rows.map fun row => ofParts (row.drop lead.length)).flatMap branches
      seqAll (lead ++ [((joined? rest).map chars).getD (ofBranches rest)])

-- ════════════════════════════════════════════════════════════════════════
-- Groups and places
-- ════════════════════════════════════════════════════════════════════════

/-- The greatest group number in an expression, or zero. -/
def groupCount : Node → Nat
  | empty => 0
  | chars _ => 0
  | look _ => 0
  | group i n => max i n.groupCount
  | seq a b => max a.groupCount b.groupCount
  | alt a b => max a.groupCount b.groupCount
  | repetition _ _ _ n => n.groupCount

/-- Whether every match starts at the start of the text, as far as a place says so. -/
def startsAtStart : Node → Bool
  | look l => l = .textStart
  | group _ n => n.startsAtStart
  | seq a b => a.startsAtStart || a.isEmptyOnly && b.startsAtStart
  | alt a b => a.startsAtStart && b.startsAtStart
  | repetition least _ _ n => 0 < least && n.startsAtStart
  | _ => false

/-- Whether every match stops at the end of the text, as far as a place says so. -/
def stopsAtEnd : Node → Bool
  | look l => l = .textEnd
  | group _ n => n.stopsAtEnd
  | seq a b => b.stopsAtEnd || b.isEmptyOnly && a.stopsAtEnd
  | alt a b => a.stopsAtEnd && b.stopsAtEnd
  | repetition least _ _ n => 0 < least && n.stopsAtEnd
  | _ => false

end Node

end Telemetry.Regex
