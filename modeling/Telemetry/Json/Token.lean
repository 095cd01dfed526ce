import Telemetry.Decimal.Reader
import Telemetry.Json.Basic

/-!
# Tokens of JSON documents

A document is cut into tokens up to its first fault. What is wrong with a string or a number may
depend on whether it is wanted: a document that is only skipped may hold surrogates without partner
and numbers beyond all range, but a number that breaks off at the end of the text is then malformed,
not cut short.

## Main definitions

- `Json.Failure`, `Json.Fault` — how reading fails, for a wanted and for a skipped value
- `Json.Token` — the tokens
- `Json.tokens` — the tokens of a text

## Main statements

- `Json.scanString_length`, `Json.scanNumber_length` — a token leaves a shorter text
-/

namespace Telemetry.Json

/-- How the reading of a document fails. -/
inductive Failure
  /-- The text is no JSON. -/
  | malformed
  /-- The text ends too early. -/
  | ended
  deriving DecidableEq, Repr

/-- A place where a document cannot be read on. -/
structure Fault where
  /-- The failure if the value at this place is wanted. -/
  wanted : Failure
  /-- The failure if the value at this place is skipped. -/
  skipped : Failure
  deriving DecidableEq, Repr

namespace Fault

/-- The text is no JSON. -/
def malformed : Fault := ⟨.malformed, .malformed⟩

/-- The text ends too early. -/
def ended : Fault := ⟨.ended, .ended⟩

/-- The fault of a number that lacks digits before the rest of the text. -/
def lacksDigits (rest : Text) : Fault :=
  if rest.isEmpty then ⟨.ended, .malformed⟩ else malformed

end Fault

/-- A token of a document. -/
inductive Token
  | openArray
  | closeArray
  | openObject
  | closeObject
  | colon
  | comma
  | null
  | bool (b : Bool)
  /-- A number, or nothing if no double is near it. -/
  | number (n : Option Numeral)
  /-- A string, or nothing if it holds a surrogate without partner. -/
  | string (t : Option Text)
  | fault (f : Fault)

/-- A token and the text behind it, or a fault. -/
abbrev Scan := Except Fault (Token × Text)

-- ════════════════════════════════════════════════════════════════════════
-- Strings
-- ════════════════════════════════════════════════════════════════════════

/-- The value of a hexadecimal digit. -/
def hexValue? (c : Char) : Option Nat :=
  if c.isDigit then some (c.toNat - 48)
  else if 'a' ≤ c ∧ c ≤ 'f' then some (c.toNat - 87)
  else if 'A' ≤ c ∧ c ≤ 'F' then some (c.toNat - 55)
  else none

/-- The code unit of four hexadecimal digits. -/
def codeUnit? (a b c d : Char) : Option Nat :=
  match hexValue? a, hexValue? b, hexValue? c, hexValue? d with
  | some a, some b, some c, some d => some (((a * 16 + b) * 16 + c) * 16 + d)
  | _, _, _, _ => none

/-- Whether a code unit is the first of a pair. -/
def isHighSurrogate (n : Nat) : Bool := 0xD800 ≤ n && n < 0xDC00

/-- Whether a code unit is the second of a pair. -/
def isLowSurrogate (n : Nat) : Bool := 0xDC00 ≤ n && n < 0xE000

/-- The character of a pair of code units. -/
def pairChar (high low : Nat) : Char :=
  Char.ofNat (0x10000 + (high - 0xD800) * 0x400 + (low - 0xDC00))

/-- The character that a letter stands for behind a backslash. -/
def escaped? (c : Char) : Option Char :=
  match c with
  | '"' => some '"'
  | '\\' => some '\\'
  | '/' => some '/'
  | 'b' => some '\x08'
  | 'f' => some '\x0C'
  | 'n' => some '\n'
  | 'r' => some '\r'
  | 't' => some '\t'
  | _ => none

/-- The number of bytes of the UTF-8 form of a text. -/
def byteLength (t : Text) : Nat :=
  t.foldr (fun c n => c.utf8Size + n) 0

/-- Whether a text ends before four more bytes of an escape could stand there. -/
def endsInEscape (t : Text) : Bool :=
  match t with
  | [] => true
  | ['\\'] => true
  | '\\' :: 'u' :: rest => byteLength rest < 4
  | _ => false

/-- Reads a string behind its opening quote. The characters read so far are in reverse, and `sound`
    tells that no surrogate among them lacks its partner. -/
def scanString (sound : Bool) (done : List Char) : Text → Scan
  | [] => .error ⟨if sound then .ended else .malformed, .ended⟩
  | '"' :: t => .ok (.string (if sound then some done.reverse else none), t)
  | '\\' :: 'u' :: a :: b :: c :: d :: t =>
    match codeUnit? a b c d with
    | none => .error .malformed
    | some n =>
      if isHighSurrogate n then
        match t with
        | '\\' :: 'u' :: e :: f :: g :: h :: t' =>
          match codeUnit? e f g h with
          | some m =>
            if isLowSurrogate m then scanString sound (pairChar n m :: done) t'
            else scanString false done ('\\' :: 'u' :: e :: f :: g :: h :: t')
          | none => .error .malformed
        | t =>
          if endsInEscape t then .error ⟨if sound then .ended else .malformed, .ended⟩
          else scanString false done t
      else if isLowSurrogate n then scanString false done t
      else scanString sound (Char.ofNat n :: done) t
  | '\\' :: 'u' :: t =>
    if byteLength t < 4 then .error ⟨if sound then .ended else .malformed, .ended⟩
    else .error .malformed
  | ['\\'] => .error ⟨if sound then .ended else .malformed, .ended⟩
  | '\\' :: c :: t =>
    match escaped? c with
    | some c => scanString sound (c :: done) t
    | none => .error .malformed
  | c :: t => if c.toNat < 0x20 then .error .malformed else scanString sound (c :: done) t
  termination_by t => t.length

-- ════════════════════════════════════════════════════════════════════════
-- Numbers
-- ════════════════════════════════════════════════════════════════════════

/-- The numeral of an integer: beyond 64 bits, and for a negative zero, the nearest double. -/
def integerNumeral? (negative : Bool) (n : Nat) : Option Numeral :=
  if negative && 0 < n && n ≤ UInt64.size / 2 then some (.negative n)
  else if !negative && n < UInt64.size then some (.natural n)
  else
    let magnitude := Decimal.Scientific.magnitude ⟨n, 0⟩
    if magnitude < Decimal.infinityBits then some (.double (Decimal.ofMagnitude negative magnitude))
    else none

/-- The numeral of a decimal, unless it is beyond the range of doubles. -/
def decimalNumeral? (negative : Bool) (s : Decimal.Scientific) : Option Numeral :=
  if s.magnitude < Decimal.infinityBits then
    some (.double (Decimal.ofMagnitude negative s.magnitude))
  else none

/-- The digits at the start of a text, and the text behind them. -/
def takeDigits (t : Text) : Text × Text :=
  (t.takeWhile Char.isDigit, t.dropWhile Char.isDigit)

/-- Reads the exponent of a number behind its letter. -/
def scanExponent (negative : Bool) (coefficient : Nat) (places : Nat) (t : Text) : Scan :=
  let (down, t) := Decimal.takeSign t
  let (ds, rest) := takeDigits t
  if ds.isEmpty then .error (.lacksDigits rest)
  else
    let e : Int := if down then -(Decimal.natural ds : Int) else Decimal.natural ds
    .ok (.number (decimalNumeral? negative ⟨coefficient, e - places⟩), rest)

/-- Reads what follows the integer part of a number. -/
def scanFraction (negative : Bool) (whole : Text) (t : Text) : Scan :=
  match t with
  | '.' :: t =>
    let (ds, rest) := takeDigits t
    if ds.isEmpty then .error (.lacksDigits rest)
    else
      let coefficient := Decimal.natural (whole ++ ds)
      match rest with
      | 'e' :: r => scanExponent negative coefficient ds.length r
      | 'E' :: r => scanExponent negative coefficient ds.length r
      | _ => .ok (.number (decimalNumeral? negative ⟨coefficient, -ds.length⟩), rest)
  | 'e' :: r => scanExponent negative (Decimal.natural whole) 0 r
  | 'E' :: r => scanExponent negative (Decimal.natural whole) 0 r
  | _ => .ok (.number (integerNumeral? negative (Decimal.natural whole)), t)

/-- Reads a number behind its sign. -/
def scanNumber (negative : Bool) (t : Text) : Scan :=
  let (whole, rest) := takeDigits t
  match whole with
  | [] => .error (.lacksDigits rest)
  | '0' :: _ :: _ => .error .malformed
  | whole => scanFraction negative whole rest

-- ════════════════════════════════════════════════════════════════════════
-- Words
-- ════════════════════════════════════════════════════════════════════════

/-- Reads the rest of a word that stands for a token. -/
def scanWord (token : Token) : (word t : Text) → Scan
  | [], t => .ok (token, t)
  | _ :: _, [] => .error .ended
  | w :: word, c :: t => if w = c then scanWord token word t else .error .malformed

-- ════════════════════════════════════════════════════════════════════════
-- Tokens
-- ════════════════════════════════════════════════════════════════════════

/-- Whether a character may stand between tokens. -/
def isSpace (c : Char) : Bool :=
  c == ' ' || c == '\n' || c == '\t' || c == '\r'

/-- Reads the token that starts with a given character. -/
def scanToken (c : Char) (t : Text) : Scan :=
  match c with
  | '[' => .ok (.openArray, t)
  | ']' => .ok (.closeArray, t)
  | '{' => .ok (.openObject, t)
  | '}' => .ok (.closeObject, t)
  | ':' => .ok (.colon, t)
  | ',' => .ok (.comma, t)
  | '"' => scanString true [] t
  | 'n' => scanWord .null ['u', 'l', 'l'] t
  | 't' => scanWord (.bool true) ['r', 'u', 'e'] t
  | 'f' => scanWord (.bool false) ['a', 'l', 's', 'e'] t
  | '-' => scanNumber true t
  | c => if c.isDigit then scanNumber false (c :: t) else .error .malformed

theorem scanString_length {sound : Bool} {done : List Char} {t rest : Text} {token : Token}
    (h : scanString sound done t = .ok (token, rest)) : rest.length < t.length := by
  fun_induction scanString sound done t <;> simp_all <;> omega

theorem takeSign_length (t : Text) : (Decimal.takeSign t).2.length ≤ t.length := by
  unfold Decimal.takeSign
  split <;> simp

theorem takeDigits_length (t : Text) :
    (takeDigits t).1.length + (takeDigits t).2.length = t.length := by
  rw [takeDigits, ← List.length_append, List.takeWhile_append_dropWhile]

theorem scanExponent_length {negative : Bool} {coefficient places : Nat} {t rest : Text}
    {token : Token} (h : scanExponent negative coefficient places t = .ok (token, rest)) :
    rest.length ≤ t.length := by
  have hs := takeSign_length t
  have hd := takeDigits_length (Decimal.takeSign t).2
  simp only [scanExponent] at h
  split at h
  · cases h
  · cases h
    omega

theorem scanFraction_length {negative : Bool} {whole t rest : Text} {token : Token}
    (h : scanFraction negative whole t = .ok (token, rest)) : rest.length ≤ t.length := by
  simp only [scanFraction] at h
  split at h
  · rename_i t
    have hd := takeDigits_length t
    split at h
    · cases h
    · split at h
      · rename_i r hr
        have := scanExponent_length h
        rw [hr] at hd
        simp only [List.length_cons] at hd ⊢
        omega
      · rename_i r hr
        have := scanExponent_length h
        rw [hr] at hd
        simp only [List.length_cons] at hd ⊢
        omega
      · cases h
        simp only [List.length_cons]
        omega
  · have := scanExponent_length h
    simp only [List.length_cons]
    omega
  · have := scanExponent_length h
    simp only [List.length_cons]
    omega
  · cases h
    exact Nat.le_refl _

theorem scanNumber_length {negative : Bool} {t rest : Text} {token : Token}
    (h : scanNumber negative t = .ok (token, rest)) : rest.length < t.length := by
  have hd := takeDigits_length t
  simp only [scanNumber] at h
  split at h
  · cases h
  · cases h
  · rename_i hne _
    have hle := scanFraction_length h
    have hpos : 0 < (takeDigits t).1.length := List.length_pos_iff.2 hne
    omega

theorem scanWord_length {token token' : Token} {word t rest : Text}
    (h : scanWord token word t = .ok (token', rest)) : rest.length ≤ t.length := by
  induction word generalizing t with
  | nil =>
    cases h
    exact Nat.le_refl _
  | cons w word ih =>
    cases t with
    | nil => cases h
    | cons c t =>
      simp only [scanWord] at h
      split at h
      · exact Nat.le_succ_of_le (ih h)
      · cases h

/-- A token leaves a text that is no longer than what followed its first character. -/
theorem scanToken_length {c : Char} {t rest : Text} {token : Token}
    (h : scanToken c t = .ok (token, rest)) : rest.length ≤ t.length := by
  unfold scanToken at h
  split at h
  all_goals first
    | (cases h; exact Nat.le_refl _)
    | exact Nat.le_of_lt (scanString_length h)
    | exact scanWord_length h
    | exact Nat.le_of_lt (scanNumber_length h)
    | skip
  split at h
  · have := scanNumber_length h
    simp only [List.length_cons] at this
    omega
  · cases h

/-- The tokens of a text up to its first fault, which is the last of them. -/
def tokens : Text → List Token
  | [] => []
  | c :: t =>
    if isSpace c then tokens t
    else
      match h : scanToken c t with
      | .ok (token, rest) =>
        have := scanToken_length h
        token :: tokens rest
      | .error f => [.fault f]
  termination_by t => t.length

/-- The tokens of a text, from its first token on. -/
theorem tokens_cons (c : Char) (t : Text) :
    tokens (c :: t) =
      if isSpace c then tokens t
      else
        match scanToken c t with
        | .ok (token, rest) => token :: tokens rest
        | .error f => [.fault f] := by
  rw [tokens]
  split
  · rfl
  · split <;> rename_i h <;> simp [h]

end Telemetry.Json
