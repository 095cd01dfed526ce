import Telemetry.Regex.Flags
import Telemetry.Regex.NamedClass

/-!
# Escapes

What a backslash and the characters behind it stand for: a character, a class, or a condition on a
place.

## Main definitions

- `Regex.Escape` — what an escape stands for
- `Regex.readHex`, `Regex.readProperty`, `Regex.readBoundary` — escapes with an argument
- `Regex.readEscape` — the escape behind a backslash
-/

namespace Telemetry.Regex

/-- What an escape stands for. -/
inductive Escape
  | char (c : Char)
  | set (s : CharSet)
  | look (l : Look)

/-- Whether a character is a hexadecimal digit. -/
def isHexDigit (c : Char) : Bool :=
  c.isDigit || ('a' ≤ c && c ≤ 'f') || ('A' ≤ c && c ≤ 'F')

/-- The text up to a closing brace, and what follows it. -/
def untilBrace (f : Flags) (comment : Bool) : Text → Option (Text × Text)
  | [] => none
  | c :: t =>
    if comment then untilBrace f (c != '\n') t
    else if f.verbose && c == '#' then untilBrace f true t
    else if f.verbose && Text.isBlank c then untilBrace f false t
    else if c == '}' then some ([], t)
    else (untilBrace f false t).map fun (inside, rest) => (c :: inside, rest)

/-- A fixed number of hexadecimal digits, and what follows them. -/
def hexDigits (f : Flags) : Nat → Text → Option (Text × Text)
  | 0, t => some ([], t)
  | n + 1, c :: t =>
    if isHexDigit c then (hexDigits f n (f.skip t)).map fun (ds, rest) => (c :: ds, rest) else none
  | _ + 1, [] => none

/-- The character that hexadecimal digits denote. -/
def charOfHex? (ds : Text) : Option Char :=
  let n := CharSet.hexadecimal ds
  if ds.isEmpty || !ds.all isHexDigit || !n.isValidChar then none else some (Char.ofNat n)

/-- An escape by code point: a fixed number of digits, or any number of them between braces. Two
    plain digits without Unicode denote a byte, which has to be one of ASCII. -/
def readHex (f : Flags) (width : Nat) (t : Text) : Option (Escape × Text) :=
  match f.skip t with
  | '{' :: t => do
    let (ds, rest) ← untilBrace f false t
    let c ← charOfHex? ds
    return (.char c, rest)
  | t => do
    let (ds, rest) ← hexDigits f width t
    let c ← charOfHex? ds
    if width = 2 && !f.unicode && 0x80 ≤ c.toNat then none else some (.char c, rest)

/-- The text before and behind the first occurrence of a mark. -/
def cutAt (mark : Text) : Text → Option (Text × Text)
  | [] => none
  | c :: t =>
    if mark.isPrefixOf (c :: t) then some ([], (c :: t).drop mark.length)
    else (cutAt mark t).map fun (before, behind) => (c :: before, behind)

/-- The class of a property as written between braces, and whether it is negated there. -/
def bracedProperty? (inside : Text) : Option (CharSet × Bool) :=
  match cutAt ['!', '='] inside with
  | some (name, value) => (CharClass.propertyValue? name value).map fun s => (s, true)
  | none =>
    match cutAt [':'] inside with
    | some (name, value) => (CharClass.propertyValue? name value).map fun s => (s, false)
    | none =>
      match cutAt ['='] inside with
      | some (name, value) => (CharClass.propertyValue? name value).map fun s => (s, false)
      | none => (CharClass.property? inside).map fun s => (s, false)

/-- An escape by property, behind its letter. -/
def readProperty (f : Flags) (negated : Bool) (t : Text) : Option (Escape × Text) := do
  let ((s, inverse), rest) ←
    match f.skip t with
    | [] => none
    | '\\' :: _ => none
    | '{' :: t => do
      let (inside, rest) ← untilBrace f false t
      let found ← bracedProperty? inside
      pure (found, rest)
    | c :: t => (CharClass.property? [c]).map fun s => ((s, false), f.skip t)
  if !f.unicode then none
  else
    let s := f.fold s
    some (.set (if negated != inverse then s.compl else s), rest)

/-- The set of a short class. -/
def shortClass? (f : Flags) (letter : Char) : Option CharSet :=
  match letter with
  | 'd' => some (if f.unicode then CharClass.decimalDigit else CharClass.asciiDigit)
  | 's' => some (if f.unicode then CharClass.blank else CharClass.asciiBlank)
  | 'w' => some (if f.unicode then CharClass.word else CharClass.asciiWord)
  | _ => none

/-- Whether a character means something in patterns by itself. -/
def isMeta (c : Char) : Bool :=
  ['\\', '.', '+', '*', '?', '(', ')', '|', '[', ']', '{', '}', '^', '$', '#', '&', '-',
    '~'].contains c

/-- Whether a character other than a letter escape stands for itself behind a backslash. -/
def isEscapable (c : Char) : Bool :=
  isMeta c || (c.toNat < 0x80 && !c.isAlphanum && c != '<' && c != '>')

/-- A word boundary, which braces behind it may restrict to one side. -/
def readBoundary (f : Flags) (t : Text) : Option (Escape × Text) :=
  let plain := some (Escape.look (.wordBoundary f.alphabet), t)
  match t with
  | '{' :: r =>
    match f.skip r with
    | [] => none
    | c :: _ =>
      if c.isAlpha || c == '-' then do
        let (inside, rest) ← untilBrace f false r
        match String.ofList inside with
        | "start" => some (.look (.wordStart f.alphabet), rest)
        | "end" => some (.look (.wordEnd f.alphabet), rest)
        | "start-half" => some (.look (.wordStartHalf f.alphabet), rest)
        | "end-half" => some (.look (.wordEndHalf f.alphabet), rest)
        | _ => none
      else plain
  | _ => plain

/-- The escape behind a backslash, and what follows it. -/
def readEscape (f : Flags) : Text → Option (Escape × Text)
  | [] => none
  | c :: t =>
    if c.isDigit then none
    else if isEscapable c then some (.char c, t)
    else
      match c with
      | 'x' => readHex f 2 t
      | 'u' => readHex f 4 t
      | 'U' => readHex f 8 t
      | 'p' => readProperty f false t
      | 'P' => readProperty f true t
      | 'a' => some (.char '\x07', t)
      | 'f' => some (.char '\x0C', t)
      | 't' => some (.char '\t', t)
      | 'n' => some (.char '\n', t)
      | 'r' => some (.char '\r', t)
      | 'v' => some (.char '\x0B', t)
      | 'A' => some (.look .textStart, t)
      | 'z' => some (.look .textEnd, t)
      | 'b' => readBoundary f t
      | 'B' => some (.look (.notWordBoundary f.alphabet), t)
      | '<' => some (.look (.wordStart f.alphabet), t)
      | '>' => some (.look (.wordEnd f.alphabet), t)
      | _ =>
        match shortClass? f c with
        | some s => some (.set s, t)
        | none => do
          let s ← shortClass? f c.toLower
          let s ← f.compl? s
          return (.set s, t)

end Telemetry.Regex
