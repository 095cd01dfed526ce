import Telemetry.Text.Basic

/-!
# File patterns

A pattern of paths: `?` stands for a character, `*` for any number of them, `[...]` for a character
of a class, and `**` as a whole component for any number of directories.

## Main definitions

- `Glob.Token`, `Glob.Pattern` — a pattern as the list of its tokens
- `Glob.SyntaxError` — a place at which a text is no pattern
- `Glob.Pattern.parse` — the pattern of a text
- `Glob.Pattern.accepts` — whether a text as a whole is an instance of a pattern

## Design notes

Positions in errors count characters.
-/

namespace Telemetry.Glob

-- ════════════════════════════════════════════════════════════════════════
-- Syntax
-- ════════════════════════════════════════════════════════════════════════

/-- A member or a range of a class. -/
inductive Specifier
  | single (c : Char)
  | range (lo hi : Char)
  deriving DecidableEq, Repr

/-- A token of a pattern. -/
inductive Token
  | char (c : Char)
  | anyChar
  | anySequence
  /-- Any number of directories, with the slash behind them. -/
  | anyDirectories
  | anyOf (specifiers : List Specifier)
  | noneOf (specifiers : List Specifier)
  deriving DecidableEq, Repr

/-- What is wrong at a place of a pattern. -/
inductive Reason
  | invalidRange
  | wildcards
  | recursiveWildcards
  deriving DecidableEq, Repr

/-- A place at which a text is no pattern. -/
structure SyntaxError where
  position : Nat
  reason : Reason
  deriving DecidableEq, Repr

/-- The wording of a reason. -/
def Reason.message : Reason → String
  | invalidRange => "invalid range pattern"
  | wildcards => "wildcards are either regular `*` or recursive `**`"
  | recursiveWildcards => "recursive wildcards must form a single path component"

/-- The wording of an error. -/
def SyntaxError.message (e : SyntaxError) : String :=
  "Pattern syntax error near position " ++ toString e.position ++ ": " ++ e.reason.message

/-- The specifiers of the text of a class, where a hyphen between two characters makes a range. -/
def specifiers : Text → List Specifier
  | lo :: '-' :: hi :: t => .range lo hi :: specifiers t
  | c :: t => .single c :: specifiers t
  | [] => []

/-- A character of a class behind its opening bracket: the token, and the number of characters up to
    the closing bracket and with it. The first member may be a closing bracket itself. -/
def class? : Text → Option (Token × Nat)
  | '!' :: c :: t => (t.idxOf? ']').map fun j => (.noneOf (specifiers (c :: t.take j)), j + 3)
  | ['!'] => none
  | c :: t => (t.idxOf? ']').map fun j => (.anyOf (specifiers (c :: t.take j)), j + 2)
  | [] => none

/-- Whether the wildcard for directories may stand behind a character. -/
def startsComponent (before : Option Char) : Bool :=
  before.isNone || before == some '/'

/-- The tokens of a text that starts at a position, behind a character. -/
def tokens (position : Nat) (before : Option Char) : Text → Except SyntaxError (List Token)
  | [] => .ok []
  | '?' :: t => (tokens (position + 1) (some '?') t).map (.anyChar :: ·)
  | '*' :: '*' :: '*' :: _ => .error ⟨position + 2, .wildcards⟩
  | '*' :: '*' :: '/' :: t =>
    if startsComponent before then
      (tokens (position + 3) (some '/') t).map (.anyDirectories :: ·)
    else .error ⟨position - 1, .recursiveWildcards⟩
  | ['*', '*'] =>
    if startsComponent before then .ok [.anyDirectories]
    else .error ⟨position - 1, .recursiveWildcards⟩
  | '*' :: '*' :: _ =>
    if startsComponent before then .error ⟨position + 2, .recursiveWildcards⟩
    else .error ⟨position - 1, .recursiveWildcards⟩
  | '*' :: t => (tokens (position + 1) (some '*') t).map (.anySequence :: ·)
  | '[' :: t =>
    match class? t with
    | none => .error ⟨position, .invalidRange⟩
    | some (token, n) => (tokens (position + 1 + n) (some ']') (t.drop n)).map (token :: ·)
  | c :: t => (tokens (position + 1) (some c) t).map (.char c :: ·)
  termination_by t => t.length
  decreasing_by all_goals simp only [List.length_cons, List.length_drop]; omega

/-- A pattern. -/
structure Pattern where
  tokens : List Token
  deriving DecidableEq, Repr

namespace Pattern

/-- The pattern of a text. -/
def parse (t : Text) : Except SyntaxError Pattern :=
  (Glob.tokens 0 none t).map fun ts => ⟨ts⟩

/-- Whether a pattern stands for any number of directories. -/
def isRecursive (p : Pattern) : Bool :=
  p.tokens.contains .anyDirectories

/-- The only text that a list of tokens accepts, if there are no wildcards among them. -/
def literalTokens? : List Token → Option Text
  | [] => some []
  | .char c :: ts => (literalTokens? ts).map (c :: ·)
  | _ :: _ => none

/-- The only text that a pattern accepts, if it has no wildcards. -/
def literal? (p : Pattern) : Option Text :=
  literalTokens? p.tokens

end Pattern

-- ════════════════════════════════════════════════════════════════════════
-- Instances
-- ════════════════════════════════════════════════════════════════════════

/-- Whether a character is one of those of a specifier. -/
def Specifier.contains (c : Char) : Specifier → Bool
  | single d => c == d
  | range lo hi => lo ≤ c && c ≤ hi

/-- The rests of a text behind each number of characters, none of which may be a barrier. -/
def rests (barrier : Char → Bool) : Text → List Text
  | [] => [[]]
  | c :: t => (c :: t) :: if barrier c then [] else rests barrier t

/-- The rests of a text behind each of its slashes. -/
def restsBehindSlashes : Text → List Text
  | [] => []
  | c :: t => if c = '/' then t :: restsBehindSlashes t else restsBehindSlashes t

/-- Whether a character matches a token for one character. -/
def Token.acceptsChar (literalSlash : Bool) (c : Char) : Token → Bool
  | char d => c == d
  | anyChar => !(literalSlash && c == '/')
  | anyOf ss => !(literalSlash && c == '/') && ss.any (·.contains c)
  | noneOf ss => !(literalSlash && c == '/') && !ss.any (·.contains c)
  | _ => false

/-- Whether a text as a whole is an instance of a list of tokens. With `literalSlash`, a slash
    matches only itself and the wildcard for directories. -/
def acceptsTokens (literalSlash : Bool) : List Token → Text → Bool
  | [], t => t.isEmpty
  | .anySequence :: ts, t =>
    (rests (fun c => literalSlash && c == '/') t).any (acceptsTokens literalSlash ts)
  | .anyDirectories :: ts, t =>
    (t :: restsBehindSlashes t ++ [[]]).any (acceptsTokens literalSlash ts)
  | _ :: _, [] => false
  | token :: ts, c :: t => token.acceptsChar literalSlash c && acceptsTokens literalSlash ts t

/-- Whether a text as a whole is an instance of a pattern. -/
def Pattern.accepts (p : Pattern) (literalSlash : Bool) (t : Text) : Bool :=
  acceptsTokens literalSlash p.tokens t

end Telemetry.Glob
