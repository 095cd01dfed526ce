import Std.Data.HashMap
import Telemetry.Regex.ByteRange
import Telemetry.Regex.Node

/-!
# Footprints

The size of a regular expression as an automaton over bytes. There are two automata, one that reads
forwards and one that reads backwards, and an expression is too large if either takes more than ten
mebibytes. A state takes 32 bytes, a transition in a list of transitions 8, and a way out of a
branch 4.

## Main definitions

- `Regex.Footprint` — how far an automaton has been laid out
- `Regex.Footprint.lay` — the automaton of an expression, behind another one
- `Regex.Node.footprint` — the size of the automaton of a whole expression
- `Regex.Node.isTooLarge` — whether an expression passes the limit

## Design notes

States are numbered in the order in which they are laid out. The automaton of a set of characters
shares states that lead on alike, as far as a memory of a fixed number of slots recalls them: the
slot follows from the numbers of a state, and each slot holds the state that used it last. Sizes
never shrink, so that the layout of many copies can stop as soon as the limit is passed.
-/

namespace Telemetry.Regex

/-- An automaton as far as it has been laid out: the number of its states, and the bytes that these
    hold beside themselves. -/
structure Footprint where
  states : Nat
  held : Nat

namespace Footprint

/-- The size of an automaton in bytes. -/
def size (f : Footprint) : Nat :=
  32 * f.states + f.held

/-- The size that an automaton may have. -/
def limit : Nat := 10 * 1048576

/-- Whether an automaton is too large. -/
def exceeds (f : Footprint) : Bool :=
  limit < f.size

/-- The automaton with some more states. -/
def add (f : Footprint) (count : Nat) : Footprint :=
  { f with states := f.states + count }

/-- The automaton with some more transitions in lists. -/
def list (f : Footprint) (count : Nat) : Footprint :=
  { f with held := f.held + 8 * count }

/-- The automaton with some more ways out of branches. -/
def branch (f : Footprint) (count : Nat) : Footprint :=
  { f with held := f.held + 4 * count }

-- ════════════════════════════════════════════════════════════════════════
-- Sets of characters
-- ════════════════════════════════════════════════════════════════════════

/-- An automaton whose states may be shared: a slot holds the numbers that describe a state, and the
    number of that state. -/
structure Sharing where
  footprint : Footprint
  slots : Std.HashMap Nat (List Nat × Nat)

/-- The mixture of some numbers from which the slot follows (FNV-1a in 64 bits). -/
def mixture (ns : List Nat) : UInt64 :=
  ns.foldl (fun h n => (h ^^^ n.toUInt64) * 1099511628211) 14695981039346656037

/-- The state that some numbers describe, either recalled or new. -/
def Sharing.state (s : Sharing) (slotCount : Nat) (numbers : List Nat) (transitions : Nat) :
    Nat × Sharing :=
  let slot := (mixture numbers).toNat % slotCount
  let fresh : Nat × Sharing :=
    let number := s.footprint.states
    (number, ⟨(s.footprint.add 1).list transitions, s.slots.insert slot (numbers, number)⟩)
  match s.slots[slot]? with
  | some (known, number) => if known = numbers then (number, s) else fresh
  | none => fresh

/-- The state from which sequences of byte ranges lead to a target. Neighbours that begin with the
    same range share a transition. -/
def forwardState (target : Nat) (depth : Nat) (rows : List (List ByteRange)) (s : Sharing) :
    Nat × Sharing :=
  match depth with
  | 0 => (target, s)
  | depth + 1 =>
    let runs := rows.splitBy fun a b => a.head? == b.head?
    let (numbers, s) := runs.foldl (fun (numbers, s) run =>
      match run with
      | ((lo, hi) :: rest) :: _ =>
        let (next, s) :=
          if rest.isEmpty then (target, s) else forwardState target depth (run.map List.tail) s
        (numbers ++ [lo, hi, next], s)
      | _ => (numbers, s)) ([], s)
    s.state 10000 numbers runs.length

/-- The states along a sequence of byte ranges, against its order, to a target. -/
def backwardStates (target : Nat) (row : List ByteRange) (s : Sharing) : Sharing :=
  (row.foldl (fun (next, s) r => s.state 1000 [next, r.1, r.2] 0) (target, s)).2

/-- The automaton of a set of characters, behind another one. -/
def layChars (backward : Bool) (set : CharSet) (f : Footprint) : Footprint :=
  match set.single? with
  | some n => f.add (encode n).length
  | none =>
    if set.isAscii then (f.add 2).list set.ranges.length
    else
      let rows := set.ranges.flatMap byteSequences
      if backward then
        let s := rows.foldl (fun s row => backwardStates (f.states + 1) row s) ⟨f.add 2, {}⟩
        s.footprint.branch rows.length
      else (forwardState f.states 4 rows ⟨f.add 1, {}⟩).2.footprint

-- ════════════════════════════════════════════════════════════════════════
-- Texts to choose from
-- ════════════════════════════════════════════════════════════════════════

/-- The bytes of an expression that is a text. -/
def textBytes? : Node → Option (List Nat)
  | .chars s => s.single?.map encode
  | .seq a b => do return (← textBytes? a) ++ (← textBytes? b)
  | _ => none

/-- The lists between the empty lists among some lists. -/
def stretches : List (List Nat) → List (List (List Nat))
  | [] => [[]]
  | [] :: rows => [] :: stretches rows
  | row :: rows =>
    match stretches rows with
    | [] => [[row]]
    | first :: rest => (row :: first) :: rest

/-- The automaton of a tree of texts, which are given by what is left of them, in order of
    preference. Texts before and after one that ends here do not share a start. -/
def layTexts (depth : Nat) (rows : List (List Nat)) (f : Footprint) : Footprint :=
  match depth with
  | 0 => f
  | depth + 1 =>
    if rows.all List.isEmpty then f
    else
      let groups := stretches
        (if rows.head? == some [] then [] :: rows.dropWhile List.isEmpty else rows)
      let f := groups.foldl (fun f group =>
        let bytes := (group.filterMap List.head?).eraseDups
        let f := bytes.foldl (fun f b =>
          layTexts depth ((group.filter fun row => row.head? == some b).map List.tail) f) f
        if bytes.isEmpty then f
        else if bytes.length = 1 then (f.add 1).branch 1
        else ((f.add 1).list bytes.length).branch 1) f
      (f.add 1).branch (groups.length - 1)

-- ════════════════════════════════════════════════════════════════════════
-- Expressions
-- ════════════════════════════════════════════════════════════════════════

/-- A part that has been laid out: the automaton up to it, and whether the part ends in a branch, so
    that the step to what follows is a way out of that branch. -/
structure Part where
  footprint : Footprint
  branches : Bool

/-- The automaton with the step from a part to what follows. -/
def Part.left (p : Part) : Footprint :=
  if p.branches then p.footprint.branch 1 else p.footprint

/-- A number of copies, each behind the one before, as far as the limit allows. -/
def copies (part : Footprint → Part) : Nat → Footprint → Part
  | 0, f => ⟨f.add 1, false⟩
  | 1, f => part f
  | n + 2, f =>
    let p := part f
    if p.footprint.exceeds then p else copies part (n + 1) p.left

/-- A number of optional copies behind a part, as far as the limit allows. -/
def optionals (part : Footprint → Part) : Nat → Part → Part
  | 0, p => p
  | n + 1, p =>
    if p.footprint.exceeds then p else optionals part n (part ((p.left.add 1).branch 2))

/-- A repetition, with a flag that says whether every match of its body has a character. -/
def layRepetition (part : Footprint → Part) (needsText : Bool) (least : Nat) (most : Option Nat)
    (f : Footprint) : Part :=
  match least, most with
  | 0, some 1 => ⟨((part (f.add 1)).left.add 1).branch 2, false⟩
  | 0, none =>
    if needsText then ⟨(part (f.add 1)).left.branch 1, true⟩
    else ⟨((part f).left.add 3).branch 4, false⟩
  | 1, none => ⟨((part f).left.add 1).branch 1, true⟩
  | n + 2, none => ⟨((part (copies part (n + 1) f).left).left.add 1).branch 1, true⟩
  | least, some most =>
    let p := copies part least f
    if least = most then p
    else ⟨(optionals part (most - least) ⟨p.footprint.add 1, p.branches⟩).left, false⟩

/-- A part as a branch of a choice, where its place among the branches counts from one. The states
    of the choice itself come behind its second branch. The place zero stands for a part outside of
    a choice. -/
def asBranch (place : Nat) (p : Part) : Part :=
  if place = 0 then p
  else ⟨(p.left.branch 1).add (if place = 2 then 2 else 0), false⟩

/-- The automaton of an expression, behind another one. The expression has a place as in `asBranch`,
    because the branches of a choice are choices themselves up to the last one. -/
def lay (backward : Bool) : Node → Nat → Footprint → Part
  | .empty, place, f => asBranch place ⟨f.add 1, false⟩
  | .chars s, place, f => asBranch place ⟨layChars backward s f, false⟩
  | .look _, place, f => asBranch place ⟨f.add 1, false⟩
  | .group _ n, place, f =>
    asBranch place
      (if backward then lay backward n 0 f else ⟨(lay backward n 0 (f.add 1)).left.add 1, false⟩)
  | .seq a b, place, f =>
    asBranch place
      (if backward then lay backward a 0 (lay backward b 0 f).left
      else lay backward b 0 (lay backward a 0 f).left)
  | .alt a b, place, f =>
    match if place = 0 then (Node.alt a b).branches.mapM textBytes? else none with
    | some rows =>
      let rows := if backward then rows.map List.reverse else rows
      ⟨layTexts ((rows.map List.length).foldr max 0 + 1) rows (f.add 1), false⟩
    | none =>
      let place := max place 1
      lay backward b (place + 1) (lay backward a place f).footprint
  | .repetition least most _ n, place, f =>
    asBranch place (layRepetition (lay backward n 0) n.needsText least most f)

end Footprint

/-- The automaton of a whole expression. One that may match anywhere first skips any bytes, and one
    that reads forwards notes where the match starts and stops. -/
def Node.footprint (backward : Bool) (n : Node) : Footprint :=
  let bound := if backward then n.stopsAtEnd else n.startsAtStart
  let start : Footprint := if bound then ⟨1, 0⟩ else ((Footprint.mk 3 0).list 1).branch 2
  if backward then (Footprint.lay true n 0 start).left.add 1
  else (Footprint.lay false n 0 (start.add 1)).left.add 2

/-- Whether an expression is too large to be used. -/
def Node.isTooLarge (n : Node) : Bool :=
  (n.footprint false).exceeds || (n.footprint true).exceeds

end Telemetry.Regex
