import Telemetry.Regex.Escape

/-!
# Bracketed classes

A class between brackets: members, ranges, short classes, POSIX classes and classes inside it, with
intersection, difference and symmetric difference between them.

## Main definitions

- `Regex.OpenClass` — a class that is being read
- `Regex.readClassItem` — a member, a range or a short class
- `Regex.readClass` — a class up to its closing bracket
-/

namespace Telemetry.Regex

/-- The operations between the parts of a class, which all bind alike and to the left. -/
inductive ClassOperation
  | inter
  | diff
  | symmDiff

/-- A class that is being read: whether it is negated, what stands before its last operation, and
    the union of the items behind that. -/
structure OpenClass where
  negated : Bool
  left : Option (ClassOperation × CharSet)
  items : CharSet

/-- The set of what has been read of a class. -/
def OpenClass.value (f : Flags) (o : OpenClass) : CharSet :=
  match o.left with
  | none => o.items
  | some (op, left) =>
    let (l, r) := (f.fold left, f.fold o.items)
    match op with
    | .inter => l.inter r
    | .diff => l.diff r
    | .symmDiff => l.symmDiff r

/-- The set of a class that has been closed. -/
def OpenClass.close? (f : Flags) (o : OpenClass) : Option CharSet :=
  let s := f.fold (o.value f)
  if o.negated then f.compl? s else some s

/-- The class with more members. -/
def OpenClass.add (o : OpenClass) (s : CharSet) : OpenClass :=
  { o with items := o.items.union s }

/-- Takes the hyphens at the start of a class, which are members of it. -/
def leadingHyphens (f : Flags) (fuel : Nat) (items : CharSet) (t : Text) : CharSet × Text :=
  match fuel, t with
  | fuel + 1, '-' :: r => leadingHyphens f fuel (items.union (.single '-')) (f.skip r)
  | _, t => (items, t)

/-- Opens a class behind its bracket. Hyphens in front, or else a closing bracket, are members. -/
def openClass (f : Flags) (t : Text) : OpenClass × Text :=
  let (negated, t) :=
    match f.skip t with
    | '^' :: r => (true, f.skip r)
    | r => (false, r)
  let (items, t) := leadingHyphens f t.length .empty t
  match t with
  | ']' :: r =>
    if items.isEmpty then (⟨negated, none, .single ']'⟩, f.skip r) else (⟨negated, none, items⟩, t)
  | _ => (⟨negated, none, items⟩, t)

/-- A member or a short class inside a class, and what follows it. -/
def readClassAtom (f : Flags) : Text → Option (Escape × Text)
  | [] => none
  | '\\' :: t => do
    let (e, rest) ← readEscape f t
    match e with
    | .look _ => none
    | .char c => if !f.unicode && 0x80 ≤ c.toNat then none else some (e, rest)
    | .set _ => some (e, rest)
  | c :: t => if !f.unicode && 0x80 ≤ c.toNat then none else some (.char c, t)

/-- A member, a range or a short class inside a class, and what follows it. -/
def readClassItem (f : Flags) (t : Text) : Option (CharSet × Text) := do
  let (first, rest) ← readClassAtom f t
  let single : Option (CharSet × Text) :=
    match first with
    | .char c => some (.single c, rest)
    | .set s => some (s, rest)
    | .look _ => none
  match f.skip rest with
  | [] => none
  | '-' :: r =>
    match f.skip r with
    | ']' :: _ => single
    | '-' :: _ => single
    | r => do
      let (second, rest) ← readClassAtom f r
      match first, second with
      | .char lo, .char hi => if lo ≤ hi then some (.range lo hi, rest) else none
      | _, _ => none
  | _ => single

/-- A POSIX class behind its opening bracket, with what follows it, or `none` if there is none. -/
def posixClass? (f : Flags) : Text → Option (Option CharSet × Text)
  | ':' :: t =>
    let (negated, t) :=
      match t with
      | '^' :: r => (true, r)
      | r => (false, r)
    match t.dropWhile (· != ':') with
    | ':' :: ']' :: rest => do
      let s ← CharClass.posix? (String.ofList (t.takeWhile (· != ':')))
      let s := f.fold s
      return (if negated then f.compl? s else some s, rest)
    | _ => none
  | _ => none

/-- Reads classes up to the closing bracket of the outermost one; `outer` are the classes around the
    current one, and `depth` is the deepest level so far. -/
def readClassItems (f : Flags) (fuel : Nat) (outer : List OpenClass) (current : OpenClass)
    (depth : Nat) (t : Text) : Option (CharSet × Nat × Text) :=
  match fuel with
  | 0 => none
  | fuel + 1 =>
    let operation (op : ClassOperation) (r : Text) :=
      readClassItems f fuel outer ⟨current.negated, some (op, current.value f), .empty⟩ depth r
    match f.skip t with
    | [] => none
    | '[' :: r =>
      match posixClass? f r with
      | some (some s, rest) => readClassItems f fuel outer (current.add s) depth rest
      | some (none, _) => none
      | none =>
        let (o, rest) := openClass f r
        readClassItems f fuel (current :: outer) o (max depth (outer.length + 2)) rest
    | ']' :: r => do
      let s ← current.close? f
      match outer with
      | [] => some (s, depth, r)
      | o :: outer => readClassItems f fuel outer (o.add s) depth r
    | '&' :: '&' :: r => operation .inter r
    | '-' :: '-' :: r => operation .diff r
    | '~' :: '~' :: r => operation .symmDiff r
    | r => do
      let (s, rest) ← readClassItem f r
      readClassItems f fuel outer (current.add s) depth rest

/-- A class behind its opening bracket: its set, its depth, and what follows it. -/
def readClass (f : Flags) (t : Text) : Option (CharSet × Nat × Text) :=
  let (o, rest) := openClass f t
  readClassItems f (t.length + 1) [] o 1 rest

end Telemetry.Regex
