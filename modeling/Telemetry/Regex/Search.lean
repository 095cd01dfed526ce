import Telemetry.Regex.CharClass
import Telemetry.Regex.Program
import Telemetry.Text.Basic

/-!
# Searching

A search runs all threads of a program side by side through a text, in order of preference. At every
position each instruction is reached by at most one thread, the most preferred one, so the time of a
search grows with the text and with the program, and no more.

## Main definitions

- `Regex.Place`, `Regex.Look.holds` — places of a text and the conditions on them
- `Regex.spread` — the threads that wait for a character, reached from given ones
- `Regex.Program.search` — the positions noted by the leftmost match of greatest preference
-/

namespace Telemetry.Regex

-- ════════════════════════════════════════════════════════════════════════
-- Places
-- ════════════════════════════════════════════════════════════════════════

/-- A place of a text: how many characters stand before it, and the characters beside it. -/
structure Place where
  position : Nat
  before : Option Char
  behind : Option Char

/-- Whether there is a word character. -/
def isWordAt (a : Alphabet) : Option Char → Bool
  | none => false
  | some c =>
    c.isAlphanum || c == '_' ||
      match a with
      | .ascii => false
      | .unicode => 0x80 ≤ c.toNat && CharClass.word.contains c

/-- Whether a condition holds at a place. -/
def Look.holds (p : Place) : Look → Bool
  | textStart => p.before.isNone
  | textEnd => p.behind.isNone
  | lineStart => p.before.isNone || p.before == some '\n'
  | lineEnd => p.behind.isNone || p.behind == some '\n'
  | lineStartCrlf =>
    p.before.isNone || p.before == some '\n' ||
      (p.before == some '\r' && p.behind != some '\n')
  | lineEndCrlf =>
    p.behind.isNone || p.behind == some '\r' ||
      (p.behind == some '\n' && p.before != some '\r')
  | wordBoundary a => isWordAt a p.before != isWordAt a p.behind
  | notWordBoundary a => isWordAt a p.before == isWordAt a p.behind
  | wordStart a => !isWordAt a p.before && isWordAt a p.behind
  | wordEnd a => isWordAt a p.before && !isWordAt a p.behind
  | wordStartHalf a => !isWordAt a p.before
  | wordEndHalf a => !isWordAt a p.behind

-- ════════════════════════════════════════════════════════════════════════
-- Threads
-- ════════════════════════════════════════════════════════════════════════

/-- The positions that a thread has noted. -/
abbrev Notes := Array (Option Nat)

/-- A thread: the instruction it is at, and what it has noted. -/
structure Thread where
  pc : Nat
  notes : Notes

/-- Threads at a place, in order of preference, and for each instruction one more than the position
    at which a thread reached it last. -/
structure Front where
  threads : List Thread
  marks : Array Nat

/-- Follows threads to the instructions that wait for a character or accept. The most preferred
    thread is followed first, and an instruction already reached at this place is not entered again.
    The threads found so far are kept in reverse. -/
def spread (code : Array Instruction) (place : Place) (fuel : Nat) (pending : List Thread)
    (front : Front) : Front :=
  match fuel, pending with
  | 0, _ => front
  | _ + 1, [] => front
  | fuel + 1, t :: pending =>
    match code[t.pc]? with
    | none => spread code place fuel pending front
    | some i =>
      if front.marks[t.pc]? == some (place.position + 1) then
        spread code place fuel pending front
      else
        let front := { front with marks := front.marks.set! t.pc (place.position + 1) }
        match i with
        | .chars .. => spread code place fuel pending { front with threads := t :: front.threads }
        | .accept => spread code place fuel pending { front with threads := t :: front.threads }
        | .look l next =>
          if l.holds place then spread code place fuel ({ t with pc := next } :: pending) front
          else spread code place fuel pending front
        | .note slot next =>
          let t := ⟨next, t.notes.set! slot (some place.position)⟩
          spread code place fuel (t :: pending) front
        | .split first second =>
          spread code place fuel ({ t with pc := first } :: { t with pc := second } :: pending)
            front

/-- A number of steps that suffices for `spread` from one thread: each instruction is entered once
    and leads to at most two others. -/
def spreadSteps (code : Array Instruction) : Nat :=
  2 * code.size + 2

/-- Moves threads over a character, in order of preference. A thread that accepts ends the move: its
    notes are the best so far, and the threads behind it are dropped. -/
def advance (code : Array Instruction) (c? : Option Char) (after : Place) (best : Option Notes) :
    List Thread → Front → Option Notes × Front
  | [], front => (best, front)
  | t :: threads, front =>
    match code[t.pc]?, c? with
    | some .accept, _ => (some t.notes, front)
    | some (.chars set next), some c =>
      if set.contains c then
        advance code c? after best threads
          (spread code after (spreadSteps code) [{ t with pc := next }] front)
      else advance code c? after best threads front
    | _, _ => advance code c? after best threads front

-- ════════════════════════════════════════════════════════════════════════
-- Runs
-- ════════════════════════════════════════════════════════════════════════

/-- Runs threads to the end of a text. As long as nothing has matched, a new thread of least
    preference starts at every place. -/
def Program.run (p : Program) (fresh : Notes) (position : Nat) (before : Option Char)
    (front : Front) (best : Option Notes) : Text → Option Notes
  | [] =>
    let place : Place := ⟨position, before, none⟩
    let front :=
      if best.isSome then front
      else spread p.code place (spreadSteps p.code) [⟨p.start, fresh⟩] front
    (advance p.code none place best front.threads.reverse ⟨[], front.marks⟩).1
  | c :: rest =>
    let front :=
      if best.isSome then front
      else
        spread p.code ⟨position, before, some c⟩ (spreadSteps p.code) [⟨p.start, fresh⟩] front
    if best.isSome && front.threads.isEmpty then best
    else
      let after : Place := ⟨position + 1, some c, rest.head?⟩
      let (best, next) :=
        advance p.code (some c) after best front.threads.reverse ⟨[], front.marks⟩
      p.run fresh (position + 1) (some c) next best rest

/-- The positions noted by the leftmost match of a text, of several the one of greatest
    preference. -/
def Program.search (p : Program) (slots : Nat) (t : Text) : Option Notes :=
  p.run (Array.replicate slots none) 0 none ⟨[], Array.replicate p.code.size 0⟩ none t

end Telemetry.Regex
