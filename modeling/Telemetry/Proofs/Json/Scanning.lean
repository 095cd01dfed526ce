import Telemetry.Proofs.Json.Grammar

/-!
# Scanning spelled values

A value is cut into its tokens regardless of how it is spelled. A string ends at its quote and a
bracket stands for itself, whatever follows; only a number needs a text behind it that does not go
on with it, and what may follow a value does not.

## Main definitions

- `Json.toTokens` — the tokens of a value
- `Json.StopsNumber`, `Json.FollowsValue` — texts that may follow a number and a value

## Main statements

- `Json.scanString_charsSpelledBy`, `Json.scanNumber_text` — scanning strings and numbers
- `Json.tokens_spelledBy`, `Json.tokens_documentSpelledBy` — the tokens of a spelled value
-/

namespace Telemetry.Json

-- ════════════════════════════════════════════════════════════════════════
-- Scanning strings
-- ════════════════════════════════════════════════════════════════════════

theorem hexValue?_of_isHexDigit {n : Nat} {c : Char} (h : IsHexDigit n c) :
    hexValue? c = some n := by
  obtain ⟨hlt, h⟩ := h
  have hlower : ∀ n < 16, hexValue? (Nat.digitChar n) = some n := by decide
  have hupper : ∀ n < 16, hexValue? (Nat.digitChar n).toUpper = some n := by decide
  obtain rfl | rfl := h
  · exact hlower n hlt
  · exact hupper n hlt

theorem UnitSpelledBy.exists_codeUnit? {n : Nat} {t : Text} (h : UnitSpelledBy n t) :
    ∃ a b c d, t = ['\\', 'u', a, b, c, d] ∧ codeUnit? a b c d = some n := by
  obtain ⟨n₃, n₂, n₁, n₀, a, b, c, d, ha, hb, hc, hd, rfl, rfl⟩ := h
  refine ⟨a, b, c, d, rfl, ?_⟩
  simp only [codeUnit?, hexValue?_of_isHexDigit ha, hexValue?_of_isHexDigit hb,
    hexValue?_of_isHexDigit hc, hexValue?_of_isHexDigit hd]

/-- The code units of a character make the character. -/
theorem pairChar_units {c : Char} (h : 0x10000 ≤ c.toNat) :
    pairChar (highUnit c) (lowUnit c) = c := by
  have hsum : 0x10000 + (highUnit c - 0xD800) * 0x400 + (lowUnit c - 0xDC00) = c.toNat := by
    rw [highUnit, lowUnit]
    omega
  rw [pairChar, hsum, Char.ofNat_toNat]

variable {sound : Bool} {done rest : List Char}

/-- A code point lies outside the range of surrogates. -/
theorem toNat_bounds (c : Char) :
    (c.toNat < 0xD800 ∨ 0xE000 ≤ c.toNat) ∧ c.toNat < 0x110000 := by
  have hvalid := c.valid
  unfold UInt32.isValidChar Nat.isValidChar at hvalid
  show (c.val.toNat < 0xD800 ∨ 0xE000 ≤ c.val.toNat) ∧ c.val.toNat < 0x110000
  omega

theorem scanString_unit {c : Char} {t : Text} (h : UnitSpelledBy c.toNat t) :
    scanString sound done (t ++ rest) = scanString sound (c :: done) rest := by
  obtain ⟨a, b, d, e, rfl, hunit⟩ := h.exists_codeUnit?
  obtain ⟨hgap, -⟩ := toNat_bounds c
  have hhigh : isHighSurrogate c.toNat = false := by
    have hbounds : 0xD800 ≤ c.toNat → 0xDC00 ≤ c.toNat := by omega
    simpa [isHighSurrogate] using hbounds
  have hlow : isLowSurrogate c.toNat = false := by
    have hbounds : 0xDC00 ≤ c.toNat → 0xE000 ≤ c.toNat := by omega
    simpa [isLowSurrogate] using hbounds
  simp only [List.cons_append, List.nil_append]
  rw [scanString]
  simp [hunit, hhigh, hlow]

theorem scanString_pair {c : Char} {t t' : Text} (beyond : 0x10000 ≤ c.toNat)
    (high : UnitSpelledBy (highUnit c) t) (low : UnitSpelledBy (lowUnit c) t') :
    scanString sound done (t ++ t' ++ rest) = scanString sound (c :: done) rest := by
  obtain ⟨a, b, d, e, rfl, hunit⟩ := high.exists_codeUnit?
  obtain ⟨a', b', d', e', rfl, hunit'⟩ := low.exists_codeUnit?
  obtain ⟨-, hlast⟩ := toNat_bounds c
  have hhigh : isHighSurrogate (highUnit c) = true := by
    have hbounds : 0xD800 ≤ highUnit c ∧ highUnit c < 0xDC00 := by
      rw [highUnit]
      omega
    simpa [isHighSurrogate] using hbounds
  have hlow : isLowSurrogate (lowUnit c) = true := by
    have hbounds : 0xDC00 ≤ lowUnit c ∧ lowUnit c < 0xE000 := by
      rw [lowUnit]
      omega
    simpa [isLowSurrogate] using hbounds
  simp only [List.cons_append, List.nil_append]
  rw [scanString]
  simp [hunit, hunit', hhigh, hlow, pairChar_units beyond]

theorem scanString_short {c letter : Char} (h : (c, letter) ∈ shortEscapes) :
    scanString sound done ('\\' :: letter :: rest) = scanString sound (c :: done) rest := by
  have hescaped : ∀ e ∈ shortEscapes, escaped? e.2 = some e.1 ∧ e.2 ≠ 'u' := by decide
  obtain ⟨hletter, hu⟩ := hescaped _ h
  rw [scanString]
  · simp [hletter]
  all_goals simp_all

theorem scanString_plain {c : Char} (quote : c ≠ '"') (backslash : c ≠ '\\')
    (control : 0x20 ≤ c.toNat) :
    scanString sound done (c :: rest) = scanString sound (c :: done) rest := by
  rw [scanString]
  · exact if_neg (Nat.not_lt.mpr control)
  all_goals simp_all

/-- Scanning goes over any spelling of a character. -/
theorem scanString_charSpelledBy {c : Char} {t : Text} (h : CharSpelledBy c t) :
    scanString sound done (t ++ rest) = scanString sound (c :: done) rest := by
  cases h with
  | plain quote backslash control => exact scanString_plain quote backslash control
  | short listed => exact scanString_short listed
  | unit h => exact scanString_unit h
  | pair beyond high low => exact scanString_pair beyond high low

theorem scanString_charsSpelledBy {s t : Text} (h : CharsSpelledBy s t) :
    scanString true done (t ++ '"' :: rest) = .ok (.string (some (done.reverse ++ s)), rest) := by
  induction h generalizing done with
  | nil =>
    rw [List.nil_append, scanString, List.append_nil]
    rfl
  | cons head tail ih =>
    rw [List.append_assoc, scanString_charSpelledBy head, ih, List.reverse_cons, List.append_assoc]
    rfl

-- ════════════════════════════════════════════════════════════════════════
-- Scanning numbers
-- ════════════════════════════════════════════════════════════════════════

/-- A text does not go on with a number in front of it. -/
def StopsNumber (t : Text) : Prop :=
  ∀ c ∈ t.head?, c.isDigit = false ∧ c ≠ '.' ∧ c ≠ 'e' ∧ c ≠ 'E'

theorem StopsNumber.nil : StopsNumber [] := by
  intro c hc
  cases hc

theorem StopsNumber.stopsDigits {t : Text} (h : StopsNumber t) : Decimal.StopsDigits t :=
  fun c hc => (h c hc).1

theorem takeDigits_append {ds t : Text} (all : ∀ c ∈ ds, c.isDigit) (stop : Decimal.StopsDigits t) :
    takeDigits (ds ++ t) = (ds, t) := by
  rw [takeDigits, Decimal.takeWhile_isDigit all stop, Decimal.dropWhile_isDigit all stop]

variable {negative : Bool} {whole : Text} {p : Decimal.Spelling}

/-- Scanning takes the exponent of a spelling off a text. -/
theorem scanExponent_power {down : Bool} {ds : Text} (h : p.exponent = some (down, ds))
    (coefficient places : Nat) (stop : StopsNumber rest) :
    scanExponent negative coefficient places ((if down then '-' else '+') :: ds ++ rest) =
      .ok (.number (decimalNumeral? negative ⟨coefficient, p.shift - places⟩), rest) := by
  have hsign : Decimal.takeSign ((if down then '-' else '+') :: ds ++ rest) =
      (down, ds ++ rest) := by
    cases down <;> rfl
  have hdigits : takeDigits (ds ++ rest) = (ds, rest) :=
    takeDigits_append (p.exponent_digits _ h) stop.stopsDigits
  have hempty : ds.isEmpty = false := by simpa using p.exponent_ne_nil _ h
  simp only [scanExponent, hsign, hdigits, hempty, Decimal.Spelling.shift, h]
  rfl

/-- The numeral of a spelled decimal: without fraction and exponent it is an integer. -/
def numeral? (negative : Bool) (p : Decimal.Spelling) : Option Numeral :=
  if p.fraction = [] ∧ p.exponent = none then
    integerNumeral? negative (Decimal.natural p.whole)
  else decimalNumeral? negative p.scientific

theorem scanFraction_power (hfraction : p.fraction = []) (stop : StopsNumber rest) :
    scanFraction negative p.whole (p.power ++ rest) =
      .ok (.number (numeral? negative p), rest) := by
  unfold Decimal.Spelling.power
  cases he : p.exponent with
  | none =>
    have hnumeral : numeral? negative p = integerNumeral? negative (Decimal.natural p.whole) :=
      if_pos ⟨hfraction, he⟩
    rw [hnumeral]
    cases rest with
    | nil => rfl
    | cons c rest =>
      obtain ⟨-, hdot, hlower, hupper⟩ := stop c rfl
      rw [List.nil_append, scanFraction] <;> simp_all
  | some e =>
    obtain ⟨down, ds⟩ := e
    have hnumeral : numeral? negative p =
        decimalNumeral? negative ⟨Decimal.natural p.whole, p.shift - (0 : Nat)⟩ := by
      rw [numeral?, if_neg (by simp [he]), Decimal.Spelling.scientific, hfraction,
        List.append_nil, List.length_nil]
    rw [hnumeral]
    exact scanExponent_power he _ _ stop

theorem scanFraction_point (hfraction : p.fraction ≠ []) (stop : StopsNumber rest) :
    scanFraction negative p.whole ('.' :: p.fraction ++ (p.power ++ rest)) =
      .ok (.number (numeral? negative p), rest) := by
  have hempty : p.fraction.isEmpty = false := by simpa using hfraction
  have hnumeral : numeral? negative p = decimalNumeral? negative
      ⟨Decimal.natural (p.whole ++ p.fraction), p.shift - p.fraction.length⟩ :=
    if_neg fun h => hfraction h.1
  have hdigits : takeDigits (p.fraction ++ (p.power ++ rest)) = (p.fraction, p.power ++ rest) :=
    takeDigits_append p.fraction_digits (p.stopsDigits_power stop.stopsDigits)
  rw [hnumeral]
  simp only [List.cons_append, scanFraction, hdigits, hempty]
  unfold Decimal.Spelling.power
  cases he : p.exponent with
  | none =>
    have hshift : p.shift = 0 := by rw [Decimal.Spelling.shift, he]
    rw [hshift, Int.zero_sub]
    cases rest with
    | nil => rfl
    | cons c rest =>
      obtain ⟨-, -, hlower, hupper⟩ := stop c rfl
      simp [hlower, hupper]
  | some e =>
    obtain ⟨down, ds⟩ := e
    exact scanExponent_power he _ _ stop

theorem scanFraction_text (stop : StopsNumber rest) :
    scanFraction negative p.whole (p.point ++ (p.power ++ rest)) =
      .ok (.number (numeral? negative p), rest) := by
  unfold Decimal.Spelling.point
  split
  case isTrue hfraction => exact scanFraction_power hfraction stop
  case isFalse hfraction => exact scanFraction_point hfraction stop

/-- Scanning takes a whole number off a text that does not go on with it. -/
theorem scanNumber_text (stop : StopsNumber rest) :
    scanNumber negative (p.text ++ rest) = .ok (.number (numeral? negative p), rest) := by
  have hdigits : takeDigits (p.text ++ rest) = (p.whole, p.point ++ (p.power ++ rest)) := by
    rw [Decimal.Spelling.text, List.append_assoc, List.append_assoc]
    exact takeDigits_append p.isWhole.all (p.stopsDigits_point stop.stopsDigits)
  simp only [scanNumber, hdigits]
  split
  case h_1 hnil => exact absurd hnil p.isWhole.ne_nil
  case h_2 c t hzero =>
    have hone := p.isWhole.zero (hzero ▸ rfl)
    rw [hzero] at hone
    cases hone
  case h_3 => exact scanFraction_text stop

-- ════════════════════════════════════════════════════════════════════════
-- Tokens
-- ════════════════════════════════════════════════════════════════════════

theorem tokens_append_of_isSpace {w : Text} (h : IsSpace w) (t : Text) :
    tokens (w ++ t) = tokens t := by
  induction w with
  | nil => rfl
  | cons c w ih =>
    rw [List.cons_append, tokens_cons, if_pos (h c List.mem_cons_self)]
    exact ih fun d hd => h d (List.mem_cons_of_mem c hd)

theorem tokens_of_scanToken {c : Char} {t rest : Text} {token : Token} (space : isSpace c = false)
    (h : scanToken c t = .ok (token, rest)) : tokens (c :: t) = token :: tokens rest := by
  rw [tokens_cons, space, h]
  rfl

theorem tokens_string {s t : Text} (h : StringSpelledBy s t) (rest : Text) :
    tokens (t ++ rest) = .string (some s) :: tokens rest := by
  obtain ⟨h⟩ := h
  refine tokens_of_scanToken rfl ?_
  have hscan := @scanString_charsSpelledBy [] rest s _ h
  simpa [scanToken] using hscan

theorem isSpace_of_isDigit {c : Char} (h : c.isDigit) : isSpace c = false := by
  rw [Bool.eq_false_iff]
  intro hspace
  simp only [isSpace, Bool.or_eq_true, beq_iff_eq] at hspace
  obtain ((rfl | rfl) | rfl) | rfl := hspace <;> cases h

theorem scanToken_of_isDigit {c : Char} {t : Text} (h : c.isDigit) :
    scanToken c t = scanNumber false (c :: t) := by
  unfold scanToken
  split
  case h_12 => exact if_pos h
  all_goals cases h

theorem tokens_text (stop : StopsNumber rest) :
    tokens ((if negative then ['-'] else []) ++ p.text ++ rest) =
      .number (numeral? negative p) :: tokens rest := by
  cases negative with
  | true => exact tokens_of_scanToken rfl (scanNumber_text stop)
  | false =>
    have hscan := @scanNumber_text rest false p stop
    obtain ⟨c, t, htext, hc⟩ := p.exists_cons
    simp only [htext, Bool.false_eq_true, if_false, List.nil_append, List.cons_append] at hscan ⊢
    refine tokens_of_scanToken (isSpace_of_isDigit hc) ?_
    rw [scanToken_of_isDigit hc]
    exact hscan

/-- The digits of an integer as a spelling. -/
def digitsSpelling (n : Nat) : Decimal.Spelling :=
  ⟨Decimal.digits n, [], none, Decimal.isWhole_digits n, by simp, by simp, by simp⟩

theorem digitsSpelling_text (n : Nat) : (digitsSpelling n).text = Decimal.digits n :=
  List.append_nil _

theorem numeral?_digitsSpelling (negative : Bool) (n : Nat) :
    numeral? negative (digitsSpelling n) = integerNumeral? negative n := by
  have hnatural : Decimal.natural (digitsSpelling n).whole = n := Decimal.natural_digits n
  rw [numeral?, if_pos ⟨rfl, rfl⟩, hnatural]

/-- The spelling of a number is a decimal with or without a minus. -/
theorem Numeral.SpelledBy.exists_spelling {n : Numeral} {t : Text} (h : n.SpelledBy t) :
    ∃ negative p, t = (if negative then ['-'] else []) ++ p.text ∧
      numeral? negative p = some n := by
  cases h with
  | @natural n h =>
    refine ⟨false, digitsSpelling n, (digitsSpelling_text n).symm, ?_⟩
    rw [numeral?_digitsSpelling]
    simpa [integerNumeral?, UInt64.size] using h
  | @negative n pos h =>
    refine ⟨true, digitsSpelling n, by rw [digitsSpelling_text]; rfl, ?_⟩
    rw [numeral?_digitsSpelling]
    simpa [integerNumeral?, UInt64.size, pos] using h
  | negativeZero => exact ⟨true, digitsSpelling 0, by decide, by rw [numeral?_digitsSpelling]; rfl⟩
  | double negative p h finite =>
    refine ⟨negative, p, rfl, ?_⟩
    have hdecimal : ¬(p.fraction = [] ∧ p.exponent = none) := by
      rintro ⟨hfraction, hexponent⟩
      simp [hfraction, hexponent] at h
    rw [numeral?, if_neg hdecimal, decimalNumeral?, if_pos finite]

theorem tokens_numeral {n : Numeral} {t : Text} (h : n.SpelledBy t) (stop : StopsNumber rest) :
    tokens (t ++ rest) = .number (some n) :: tokens rest := by
  obtain ⟨negative, p, rfl, hnumeral⟩ := h.exists_spelling
  rw [tokens_text stop, hnumeral]

mutual

/-- The tokens of a value. -/
def toTokens : Json → List Token
  | null => [.null]
  | bool b => [.bool b]
  | number n => [.number (some n)]
  | string t => [.string (some t)]
  | array items => .openArray :: itemTokens items ++ [.closeArray]
  | object members => .openObject :: memberTokens members ++ [.closeObject]

/-- The tokens of the items of an array, with their commas. -/
def itemTokens : List Json → List Token
  | [] => []
  | [v] => toTokens v
  | v :: vs => toTokens v ++ .comma :: itemTokens vs

/-- The tokens of the members of an object, with their commas. -/
def memberTokens : List (Text × Json) → List Token
  | [] => []
  | [m] => keyedTokens m
  | m :: ms => keyedTokens m ++ .comma :: memberTokens ms

/-- The tokens of a member of an object. -/
def keyedTokens : Text × Json → List Token
  | (k, v) => .string (some k) :: .colon :: toTokens v

end

/-- A text that may follow a value. -/
def FollowsValue (t : Text) : Prop :=
  ∀ c ∈ t.head?, isSpace c ∨ c = ',' ∨ c = ']' ∨ c = '}'

theorem FollowsValue.stopsNumber {t : Text} (h : FollowsValue t) : StopsNumber t := by
  intro c hc
  have hend := h c hc
  simp only [isSpace, Bool.or_eq_true, beq_iff_eq] at hend
  obtain (((rfl | rfl) | rfl) | rfl) | rfl | rfl | rfl := hend <;> decide

theorem FollowsValue.cons {c : Char} (h : c ∈ [',', ']', '}']) (t : Text) :
    FollowsValue (c :: t) := by
  intro d hd
  cases hd
  simp only [List.mem_cons, List.not_mem_nil, or_false] at h
  exact .inr h

theorem FollowsValue.append {w t : Text} (hw : IsSpace w) (ht : FollowsValue t) :
    FollowsValue (w ++ t) := by
  cases w with
  | nil => exact ht
  | cons d w =>
    intro c hc
    cases hc
    exact .inl (hw d List.mem_cons_self)

theorem tokens_null (rest : Text) : tokens ("null".toList ++ rest) = .null :: tokens rest :=
  tokens_of_scanToken rfl rfl

theorem tokens_true (rest : Text) : tokens ("true".toList ++ rest) = .bool true :: tokens rest :=
  tokens_of_scanToken rfl rfl

theorem tokens_false (rest : Text) :
    tokens ("false".toList ++ rest) = .bool false :: tokens rest :=
  tokens_of_scanToken rfl rfl

mutual

/-- The tokens of a spelled value, whatever follows it. -/
theorem tokens_spelledBy {v : Json} {t : Text} : SpelledBy v t → ∀ {rest : Text},
    FollowsValue rest → tokens (t ++ rest) = toTokens v ++ tokens rest
  | .null, rest, _ => tokens_null rest
  | .true, rest, _ => tokens_true rest
  | .false, rest, _ => tokens_false rest
  | .number h, _, follows => tokens_numeral h follows.stopsNumber
  | .string h, rest, _ => tokens_string h rest
  | .array h, rest, _ => by
    have hitems := tokens_itemsSpelledBy h (FollowsValue.cons (c := ']') (by decide) rest)
    have hopen : ∀ t, tokens ('[' :: t) = .openArray :: tokens t :=
      fun t => tokens_of_scanToken rfl rfl
    have hclose : tokens (']' :: rest) = .closeArray :: tokens rest := tokens_of_scanToken rfl rfl
    simp [toTokens, hopen, hclose, hitems]
  | .object h, rest, _ => by
    have hmembers := tokens_membersSpelledBy h (FollowsValue.cons (c := '}') (by decide) rest)
    have hopen : ∀ t, tokens ('{' :: t) = .openObject :: tokens t :=
      fun t => tokens_of_scanToken rfl rfl
    have hclose : tokens ('}' :: rest) = .closeObject :: tokens rest := tokens_of_scanToken rfl rfl
    simp [toTokens, hopen, hclose, hmembers]

theorem tokens_itemsSpelledBy {vs : List Json} {t : Text} : ItemsSpelledBy vs t → ∀ {rest : Text},
    FollowsValue rest → tokens (t ++ rest) = itemTokens vs ++ tokens rest
  | .nil space, rest, _ => tokens_append_of_isSpace space rest
  | .single before h after, rest, follows => by
    have hv := tokens_spelledBy h (follows.append after)
    rw [List.append_assoc, List.append_assoc, tokens_append_of_isSpace before, hv,
      tokens_append_of_isSpace after, itemTokens]
  | @ItemsSpelledBy.cons v v' vs w t w' t' before h after tail, rest, follows => by
    have hcomma : tokens (',' :: (t' ++ rest)) = .comma :: tokens (t' ++ rest) :=
      tokens_of_scanToken rfl rfl
    have hv := tokens_spelledBy h
      (FollowsValue.append after (.cons (c := ',') (by decide) (t' ++ rest)))
    have htail := tokens_itemsSpelledBy tail follows
    simp only [List.append_assoc, List.cons_append]
    rw [tokens_append_of_isSpace before, hv, tokens_append_of_isSpace after, hcomma, htail]
    simp [itemTokens]

theorem tokens_memberSpelledBy {m : Text × Json} {t : Text} : MemberSpelledBy m t →
    ∀ {rest : Text}, FollowsValue rest → tokens (t ++ rest) = keyedTokens m ++ tokens rest
  | @MemberSpelledBy.mk k v w s w₁ w₂ t w₃ before key colon gap h after, rest, follows => by
    have hcolon : ∀ t, tokens (':' :: t) = .colon :: tokens t :=
      fun t => tokens_of_scanToken rfl rfl
    have hv := tokens_spelledBy h (follows.append after)
    simp only [List.append_assoc, List.cons_append]
    rw [tokens_append_of_isSpace before, tokens_string key, tokens_append_of_isSpace colon, hcolon,
      tokens_append_of_isSpace gap, hv, tokens_append_of_isSpace after]
    simp [keyedTokens]

theorem tokens_membersSpelledBy {ms : List (Text × Json)} {t : Text} : MembersSpelledBy ms t →
    ∀ {rest : Text}, FollowsValue rest → tokens (t ++ rest) = memberTokens ms ++ tokens rest
  | .nil space, rest, _ => tokens_append_of_isSpace space rest
  | .single h, rest, follows => by
    rw [tokens_memberSpelledBy h follows, memberTokens]
  | @MembersSpelledBy.cons m m' ms t t' h tail, rest, follows => by
    have hcomma : tokens (',' :: (t' ++ rest)) = .comma :: tokens (t' ++ rest) :=
      tokens_of_scanToken rfl rfl
    have hm := tokens_memberSpelledBy h (.cons (c := ',') (by decide) (t' ++ rest))
    have htail := tokens_membersSpelledBy tail follows
    rw [List.append_assoc, List.cons_append, hm, hcomma, htail]
    simp [memberTokens]

end

/-- The tokens of a document that spells a value. -/
theorem tokens_documentSpelledBy {v : Json} {t : Text} (h : DocumentSpelledBy v t) :
    tokens t = toTokens v := by
  obtain ⟨before, h, after⟩ := h
  have hfollows : FollowsValue _ := FollowsValue.append after (t := []) fun c hc => by cases hc
  have hend := tokens_append_of_isSpace after []
  rw [List.append_nil] at hfollows hend
  rw [List.append_assoc, tokens_append_of_isSpace before, tokens_spelledBy h hfollows, hend]
  simp [tokens]

end Telemetry.Json
