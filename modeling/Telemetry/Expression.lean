import Telemetry.Text.Blank
import Telemetry.Value

/-!
# Expressions

An expression is a list of tokens in reverse Polish order, written with commas between them:
`{a},2,:add` adds two to the variable `a`.

## Main definitions

- `Operator`, `Token` — what an expression is made of
- `Token.parse` — the token that a piece of text spells
- `Expression` — a text together with the tokens it spells
- `Expression.parse` — the expression of a text; every text is one
-/

namespace Telemetry

/-- The four operations of arithmetic. -/
inductive Operator
  | add
  | sub
  | mul
  | div
  deriving DecidableEq, Repr

namespace Operator

/-- How an operator is written in an expression. -/
def spelling : Operator → Text
  | add => [':', 'a', 'd', 'd']
  | sub => [':', 's', 'u', 'b']
  | mul => [':', 'm', 'u', 'l']
  | div => [':', 'd', 'i', 'v']

/-- The operator that a text spells. -/
def ofSpelling? (t : Text) : Option Operator :=
  [add, sub, mul, div].find? fun op => op.spelling == t

/-- The result of an operation. Division by zero gives an infinity or no number, as for doubles. -/
def apply : Operator → Float → Float → Float
  | add, x, y => x + y
  | sub, x, y => x - y
  | mul, x, y => x * y
  | div, x, y => x / y

end Operator

/-- One step of an expression. -/
inductive Token
  | operator (op : Operator)
  | variable (name : Text)
  | literal (value : Value)
  deriving DecidableEq

/-- The token that a piece of text spells: an operator, a name between braces, or a raw value. -/
def Token.parse (piece : Text) : Token :=
  let t := piece.trim
  match Operator.ofSpelling? t with
  | some op => .operator op
  | none =>
    match t.braced? with
    | some (c :: name) => .variable (c :: name)
    | _ => .literal (.parse t)

/-- An expression as it was written, and its tokens. -/
structure Expression where
  source : Text
  tokens : List Token
  deriving DecidableEq

/-- The expression of a text, whose tokens stand between commas. -/
def Expression.parse (source : Text) : Expression where
  source := source
  tokens := (Text.splitChar ',' source).map Token.parse

end Telemetry
