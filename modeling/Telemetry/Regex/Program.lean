import Telemetry.Regex.Node

/-!
# Matching programs

A regular expression becomes a list of instructions for threads that move through a text. A thread
waits for a character, tests a place, notes a position or splits into two threads of which the first
is preferred.

## Main definitions

- `Regex.Instruction`, `Regex.Program` — instructions and where to start among them
- `Regex.Node.emit` — the instructions of an expression, in front of those that follow it
- `Regex.Node.program` — the program of an expression

## Design notes

Instructions are laid out from the end of an expression to its start, so the target of each is known
when it is written, loops apart: there the split is reserved first and filled in behind its body. An
unbounded repetition whose body may match the empty text tests its body once more before the loop,
so that an empty round is preferred as written and never repeated.
-/

namespace Telemetry.Regex

/-- A step of a thread; numbers are places in the program. -/
inductive Instruction
  /-- Waits for a character of a set. -/
  | chars (set : CharSet.Index) (next : Nat)
  /-- Goes on only at certain places. -/
  | look (l : Look) (next : Nat)
  /-- Notes the position in a slot. -/
  | note (slot : Nat) (next : Nat)
  /-- Goes on in two ways, preferably the first. -/
  | split (first second : Nat)
  | accept

/-- Instructions and the place of the first one. -/
structure Program where
  code : Array Instruction
  start : Nat

/-- Instructions under construction, with the place where the part written last starts. -/
abbrev Layout := Nat × Array Instruction

/-- One more instruction. -/
def Layout.push (code : Array Instruction) (i : Instruction) : Layout :=
  (code.size, code.push i)

/-- A choice between the body of a repetition and what follows it. -/
def choice (greedy : Bool) (body next : Nat) : Instruction :=
  if greedy then .split body next else .split next body

/-- A number of copies of a part, each in front of the one before. -/
def copies (part : Nat → Array Instruction → Layout) : Nat → Nat → Array Instruction → Layout
  | 0, next, code => (next, code)
  | n + 1, next, code =>
    let (entry, code) := part next code
    copies part n entry code

/-- A number of optional copies of a part, each inside the one before; all leave to one place. -/
def optionals (part : Nat → Array Instruction → Layout) (greedy : Bool) (leave : Nat) :
    Nat → Nat → Array Instruction → Layout
  | 0, next, code => (next, code)
  | n + 1, next, code =>
    let (body, code) := part next code
    let (entry, code) := Layout.push code (choice greedy body leave)
    optionals part greedy leave n entry code

/-- A part with a loop behind it; gives the place of the part, of the split behind it, and the
    code. -/
def loop (part : Nat → Array Instruction → Layout) (greedy : Bool) (next : Nat)
    (code : Array Instruction) : Nat × Nat × Array Instruction :=
  let turn := code.size
  let (body, code) := part turn (code.push (.split next next))
  (body, turn, code.set! turn (choice greedy body next))

/-- The instructions of an expression in front of those at `next`. -/
def Node.emit : Node → Nat → Array Instruction → Layout
  | empty, next, code => (next, code)
  | chars s, next, code => Layout.push code (.chars s.index next)
  | look l, next, code => Layout.push code (.look l next)
  | group i n, next, code =>
    let (close, code) := Layout.push code (.note (2 * i + 1) next)
    let (body, code) := n.emit close code
    Layout.push code (.note (2 * i) body)
  | seq a b, next, code =>
    let (second, code) := b.emit next code
    a.emit second code
  | alt a b, next, code =>
    let (first, code) := a.emit next code
    let (second, code) := b.emit next code
    Layout.push code (.split first second)
  | repetition min (some max) greedy n, next, code =>
    let (entry, code) := optionals n.emit greedy next (max - min) next code
    copies n.emit min entry code
  | repetition 0 none greedy n, next, code =>
    let (body, turn, code) := loop n.emit greedy next code
    if n.needsText then (turn, code) else Layout.push code (choice greedy body next)
  | repetition (min + 1) none greedy n, next, code =>
    let (body, _, code) := loop n.emit greedy next code
    copies n.emit min body code

/-- The program of an expression. -/
def Node.program (n : Node) : Program :=
  let (start, code) := n.emit 0 #[.accept]
  ⟨code, start⟩

end Telemetry.Regex
