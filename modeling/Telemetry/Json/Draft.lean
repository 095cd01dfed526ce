import Telemetry.Json.Token

/-!
# Drafts of JSON documents

A draft is what can be read of a document: a tree that ends at the first fault. A reader that looks
at the tree in the order of the text meets what precedes a fault first, and so decides for itself
which of two problems comes first.

## Main definitions

- `Json.Draft` — a value as far as it can be read
- `Json.Draft.ofTokens` — the draft that tokens spell, and the tokens behind it
- `Json.Draft.whole?` — the value of a draft without fault
- `Json.parse?` — the value that a text spells, if it is JSON

## Design notes

Every container around a fault ends with that fault. The place behind a comma always holds an item,
if only a fault, so the number of items tells where a container broke off.
-/

namespace Telemetry.Json

/-- A value as far as it can be read. -/
inductive Draft
  | null
  | bool (b : Bool)
  /-- A number, or nothing if no double is near it. -/
  | number (n : Option Numeral)
  /-- A string, or nothing if it holds a surrogate without partner. -/
  | string (t : Option Text)
  /-- Items, and the fault in front of the closing bracket if there is one. -/
  | array (items : List Draft) (fault : Option Fault)
  /-- Members with their keys, and the fault in front of the closing brace if there is one. -/
  | object (members : List (Option Text × Draft)) (fault : Option Fault)
  /-- No value, but a fault. -/
  | broken (fault : Fault)

namespace Draft

-- ════════════════════════════════════════════════════════════════════════
-- Construction
-- ════════════════════════════════════════════════════════════════════════

/-- A container that is being read, with what it holds so far in reverse. -/
inductive Frame
  | array (items : List Draft)
  | object (members : List (Option Text × Draft))
  /-- An object that waits for the value of a key. -/
  | member (members : List (Option Text × Draft)) (key : Option Text)

/-- What has to come next. -/
inductive Awaited
  | value
  /-- A value, or the end of an array that is still empty. -/
  | firstItem
  /-- A key, or the end of an object that is still empty. -/
  | firstKey
  | key
  | colon (key : Option Text)
  /-- A comma, or the end of a container. -/
  | separator

/-- The draft of a container with its fault, if it has one. -/
def Frame.close (fault : Option Fault) : Frame → Draft
  | array items => .array items.reverse fault
  | object members => .object members.reverse fault
  | member members _ => .object members.reverse fault

/-- A container with one more value. -/
def Frame.add (v : Draft) : Frame → Frame
  | array items => array (v :: items)
  | object members => object members
  | member members key => object ((key, v) :: members)

/-- The draft of the outermost container when the innermost value is the last that can be read. -/
def breakOff (f : Fault) (v : Draft) : List Frame → Draft
  | [] => v
  | frame :: frames => breakOff f ((frame.add v).close (some f)) frames

/-- The draft of the outermost container when the innermost one breaks off between its values. -/
def breakOffContainer (f : Fault) : List Frame → Draft
  | [] => .broken f
  | frame :: frames => breakOff f (frame.close (some f)) frames

/-- The fault of a token that is not the awaited one. -/
def faultOf : Token → Fault
  | .fault f => f
  | _ => .malformed

/-- The scalar that a token spells. -/
def scalar? : Token → Option Draft
  | .null => some .null
  | .bool b => some (.bool b)
  | .number n => some (.number n)
  | .string t => some (.string t)
  | _ => none

/-- How far the reading of a document has come. -/
inductive Progress
  /-- Inside some containers, the innermost first, with something awaited. -/
  | reading (frames : List Frame) (awaited : Awaited)
  /-- The draft is complete. -/
  | done (d : Draft)

/-- Goes on behind a value. -/
def finish (v : Draft) : List Frame → Progress
  | [] => .done v
  | frame :: frames => .reading (frame.add v :: frames) .separator

/-- Goes on behind the end of the innermost container. -/
def leave : List Frame → Progress
  | [] => .done (.broken .malformed)
  | frame :: frames => finish (frame.close none) frames

/-- Goes on from the first token of a value. -/
def startValue (frames : List Frame) : Token → Progress
  | .openArray => .reading (.array [] :: frames) .firstItem
  | .openObject => .reading (.object [] :: frames) .firstKey
  | token =>
    match scalar? token with
    | some v => finish v frames
    | none => .done (breakOff (faultOf token) (.broken (faultOf token)) frames)

/-- Goes on from a token that is a key, or else breaks off. -/
def startMember (frames : List Frame) : Token → Progress
  | .string key => .reading frames (.colon key)
  | token => .done (breakOffContainer (faultOf token) frames)

/-- The draft of a document that breaks off while something is awaited. -/
def breakOffAt (f : Fault) (frames : List Frame) : Awaited → Draft
  | .value => breakOff f (.broken f) frames
  | .colon key =>
    match frames with
    | .object members :: frames => breakOff f (.broken f) (.member members key :: frames)
    | frames => breakOffContainer f frames
  | _ => breakOffContainer f frames

/-- Goes on from one token. -/
def step (frames : List Frame) (awaited : Awaited) (token : Token) : Progress :=
  match awaited, token, frames with
  | .value, token, frames => startValue frames token
  | .firstItem, .closeArray, frames => leave frames
  | .firstItem, token, frames => startValue frames token
  | .firstKey, .closeObject, frames => leave frames
  | .firstKey, token, frames => startMember frames token
  | .key, token, frames => startMember frames token
  | .colon key, .colon, .object members :: frames =>
    .reading (.member members key :: frames) .value
  | .separator, .comma, .array items :: frames => .reading (.array items :: frames) .value
  | .separator, .comma, .object members :: frames => .reading (.object members :: frames) .key
  | .separator, .closeArray, .array items :: frames => leave (.array items :: frames)
  | .separator, .closeObject, .object members :: frames => leave (.object members :: frames)
  | awaited, token, frames => .done (breakOffAt (faultOf token) frames awaited)

/-- The draft that tokens complete, and the tokens behind it. -/
def run : Progress → List Token → Draft × List Token
  | .done d, tokens => (d, tokens)
  | .reading frames awaited, [] => (breakOffAt .ended frames awaited, [])
  | .reading frames awaited, token :: tokens => run (step frames awaited token) tokens

/-- The draft of the value that tokens start with, and the tokens behind it. -/
def ofTokens (tokens : List Token) : Draft × List Token :=
  run (.reading [] .value) tokens

-- ════════════════════════════════════════════════════════════════════════
-- Values
-- ════════════════════════════════════════════════════════════════════════

mutual

/-- The value of a draft without fault. -/
def whole? : Draft → Option Json
  | null => some .null
  | bool b => some (.bool b)
  | number n => n.map .number
  | string t => t.map .string
  | array items none => (wholeItems? items).map .array
  | array _ (some _) => none
  | object members none => (wholeMembers? members).map .object
  | object _ (some _) => none
  | broken _ => none

/-- The values of drafts without fault. -/
def wholeItems? : List Draft → Option (List Json)
  | [] => some []
  | v :: vs =>
    match whole? v, wholeItems? vs with
    | some v, some vs => some (v :: vs)
    | _, _ => none

/-- The members of an object without fault. -/
def wholeMembers? : List (Option Text × Draft) → Option (List (Text × Json))
  | [] => some []
  | (some k, v) :: ms =>
    match whole? v, wholeMembers? ms with
    | some v, some ms => some ((k, v) :: ms)
    | _, _ => none
  | (none, _) :: _ => none

end

end Draft

/-- The value that a text spells, if it is JSON. -/
def parse? (t : Text) : Option Json :=
  match Draft.ofTokens (tokens t) with
  | (d, []) => d.whole?
  | _ => none

end Telemetry.Json
