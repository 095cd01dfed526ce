/-!
# Texts

A text is the list of its characters. Every rule of the library that looks at a text is a recursion
over characters, so this is the form in which texts are stored; strings appear only at the edge,
where messages are shown and files are read.

## Main definitions

- `Text` — a list of characters
- `Text.splitWhere` — the pieces between the characters of a class
- `Text.splitText` — the pieces between the occurrences of a separator
- `Text.strip` — a text without the characters of a class at both ends
- `Text.braced?` — the inside of a text between braces

## Design notes

Splitting never loses a piece: a text without separator is its own only piece, and the empty text is
one empty piece. Callers drop empty pieces where they are not wanted.
-/

namespace Telemetry

/-- A text, as the list of its characters. -/
abbrev Text := List Char

namespace Text

-- ════════════════════════════════════════════════════════════════════════
-- Splitting
-- ════════════════════════════════════════════════════════════════════════

/-- The pieces of a text between the characters that satisfy `sep`; there is always at least one. -/
def splitWhere (sep : Char → Bool) : Text → List Text
  | [] => [[]]
  | c :: t =>
    if sep c then [] :: splitWhere sep t
    else
      match splitWhere sep t with
      | [] => [[c]]
      | piece :: pieces => (c :: piece) :: pieces

/-- The pieces of a text between the occurrences of one character. -/
def splitChar (sep : Char) (t : Text) : List Text :=
  splitWhere (· == sep) t

/-- The lines of a text: the pieces between its line feeds. -/
def lines (t : Text) : List Text :=
  splitChar '\n' t

/-- The pieces of a text between the occurrences of a non-empty separator, which are taken from left
    to right and do not overlap. -/
def splitText (sep : Text) : Text → List Text
  | [] => [[]]
  | c :: t =>
    if sep.isPrefixOf (c :: t) then [] :: splitText sep (t.drop (sep.length - 1))
    else
      match splitText sep t with
      | [] => [[c]]
      | piece :: pieces => (c :: piece) :: pieces
  termination_by t => t.length
  decreasing_by all_goals simp only [List.length_cons, List.length_drop]; omega

theorem splitWhere_ne_nil (sep : Char → Bool) (t : Text) : splitWhere sep t ≠ [] := by
  cases t with
  | nil => simp [splitWhere]
  | cons c t =>
    unfold splitWhere
    split
    · simp
    · split <;> simp

theorem splitText_ne_nil (sep t : Text) : splitText sep t ≠ [] := by
  cases t with
  | nil => simp [splitText]
  | cons c t =>
    unfold splitText
    split
    · simp
    · split <;> simp

-- ════════════════════════════════════════════════════════════════════════
-- Stripping
-- ════════════════════════════════════════════════════════════════════════

/-- A text without the characters of a class at its end. -/
def stripEnd (drop : Char → Bool) (t : Text) : Text :=
  (t.reverse.dropWhile drop).reverse

/-- A text without the characters of a class at both ends. -/
def strip (drop : Char → Bool) (t : Text) : Text :=
  stripEnd drop (t.dropWhile drop)

/-- The inside of a text that starts with an opening brace and ends with a closing one. -/
def braced? : Text → Option Text
  | '{' :: t =>
    match t.getLast? with
    | some '}' => some t.dropLast
    | _ => none
  | _ => none

-- ════════════════════════════════════════════════════════════════════════
-- Joining
-- ════════════════════════════════════════════════════════════════════════

/-- The texts one after the other, with a separator between neighbours. -/
def join (sep : Text) (ts : List Text) : Text :=
  List.intercalate sep ts

end Text

end Telemetry
