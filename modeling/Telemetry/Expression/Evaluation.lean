import Telemetry.Expression

/-!
# Evaluation of expressions

Tokens work on a stack: a variable or a literal is pushed, and an operator replaces the two topmost
values by its result. An expression has a value if exactly one is left at the end.

## Main definitions

- `Context` — what names stand for
- `Context.withFallback` — one context in front of another
- `EvalError` — the ways in which an evaluation fails
- `Expression.evaluate` — the value of an expression in a context

## Design notes

A stack is the list of its values with the topmost first. Messages show it from the bottom.
-/

namespace Telemetry

/-- What names stand for. -/
abbrev Context := Text → Option Value

/-- The context in which the names of `upper` hide those of `lower`. -/
def Context.withFallback (upper lower : Context) : Context :=
  fun name => (upper name).or (lower name)

/-- The values at hand during an evaluation, the topmost first. -/
abbrev Stack := List Value

/-- The ways in which an evaluation fails. -/
inductive EvalError
  /-- An operator met fewer than two values. -/
  | stackUnderflow (stack : Stack)
  /-- An operand is not a number. -/
  | notANumber (operand : Value)
  | unknownVariable (name : Text)
  /-- The tokens are used up and the stack does not hold exactly one value. -/
  | residualStack (stack : Stack)
  deriving DecidableEq

/-- The values of a stack from the bottom, between brackets. -/
def Stack.show (stack : Stack) : String :=
  String.ofList ('[' :: Text.join [' '] (stack.reverse.map Value.canonical) ++ [']'])

/-- The wording of an error. -/
def EvalError.message : EvalError → String
  | stackUnderflow stack => "need at least two arguments on the stack: " ++ stack.show
  | notANumber operand =>
    "not a number: '" ++ String.ofList operand.canonical ++ "' " ++ operand.kind
  | unknownVariable name => "unknown variable: '" ++ String.ofList name ++ "'"
  | residualStack stack => "stack should have single item, found: " ++ stack.show

/-- The number that an operand has to be. -/
def Value.toNumber (v : Value) : Except EvalError Float :=
  match v.number? with
  | some x => .ok x
  | none => .error (.notANumber v)

/-- The stack after an operator. The right operand, which is on top, is looked at first. -/
def Operator.run (op : Operator) : Stack → Except EvalError Stack
  | right :: left :: stack =>
    match right.toNumber with
    | .error e => .error e
    | .ok y =>
      match left.toNumber with
      | .error e => .error e
      | .ok x => .ok (.number (op.apply x y) :: stack)
  | stack => .error (.stackUnderflow stack)

/-- The stack after a token. -/
def Token.run (context : Context) (stack : Stack) : Token → Except EvalError Stack
  | operator op => op.run stack
  | .variable name =>
    match context name with
    | some v => .ok (v :: stack)
    | none => .error (.unknownVariable name)
  | literal v => .ok (v :: stack)

/-- The stack after a list of tokens, or the error of the first one that cannot proceed. -/
def Token.runAll (context : Context) (stack : Stack) : List Token → Except EvalError Stack
  | [] => .ok stack
  | token :: tokens =>
    match token.run context stack with
    | .error e => .error e
    | .ok stack' => runAll context stack' tokens

/-- The value of an expression in a context. -/
def Expression.evaluate (e : Expression) (context : Context) : Except EvalError Value :=
  match Token.runAll context [] e.tokens with
  | .error err => .error err
  | .ok [v] => .ok v
  | .ok stack => .error (.residualStack stack)

end Telemetry
