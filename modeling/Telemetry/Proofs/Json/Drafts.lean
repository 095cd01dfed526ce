import Telemetry.Json.Draft
import Telemetry.Proofs.Json.Scanning

/-!
# Drafts of spelled values

The tokens of a value complete the draft of the value inside any containers, and leave the tokens
behind it. So a document that spells a value has a draft without any fault, and parsing it gives the
value.

## Main definitions

- `Json.toDraft` — the draft of a value
- `Json.textItems`, `Json.textMembers` — arrays and objects of strings

## Main statements

- `Json.run_toTokens` — the tokens of a value inside containers
- `Json.ofTokens_documentSpelledBy` — the draft of a document
- `Json.parse?_documentSpelledBy` — the value of a document
-/

namespace Telemetry.Json

-- ════════════════════════════════════════════════════════════════════════
-- Drafts of values
-- ════════════════════════════════════════════════════════════════════════

mutual

/-- The draft of a value. -/
def toDraft : Json → Draft
  | null => .null
  | bool b => .bool b
  | number n => .number (some n)
  | string t => .string (some t)
  | array items => .array (itemDrafts items) none
  | object members => .object (memberDrafts members) none

/-- The drafts of the items of an array. -/
def itemDrafts : List Json → List Draft
  | [] => []
  | v :: vs => toDraft v :: itemDrafts vs

/-- The drafts of the members of an object. -/
def memberDrafts : List (Text × Json) → List (Option Text × Draft)
  | [] => []
  | (k, v) :: ms => (some k, toDraft v) :: memberDrafts ms

end

mutual

/-- A value is what its draft holds. -/
theorem whole?_toDraft : ∀ v : Json, (toDraft v).whole? = some v
  | null => rfl
  | bool _ => rfl
  | number _ => rfl
  | string _ => rfl
  | array items => by
    have hitems := wholeItems?_itemDrafts items
    rw [toDraft, Draft.whole?, hitems, Option.map_some]
  | object members => by
    have hmembers := wholeMembers?_memberDrafts members
    rw [toDraft, Draft.whole?, hmembers, Option.map_some]

theorem wholeItems?_itemDrafts : ∀ vs : List Json, Draft.wholeItems? (itemDrafts vs) = some vs
  | [] => rfl
  | v :: vs => by
    have hv := whole?_toDraft v
    have hvs := wholeItems?_itemDrafts vs
    rw [itemDrafts, Draft.wholeItems?, hv, hvs]

theorem wholeMembers?_memberDrafts :
    ∀ ms : List (Text × Json), Draft.wholeMembers? (memberDrafts ms) = some ms
  | [] => rfl
  | (k, v) :: ms => by
    have hv := whole?_toDraft v
    have hms := wholeMembers?_memberDrafts ms
    rw [memberDrafts, Draft.wholeMembers?, hv, hms]

end

-- ════════════════════════════════════════════════════════════════════════
-- Values made of texts
-- ════════════════════════════════════════════════════════════════════════

/-- The strings of some texts. -/
def textItems (ts : List Text) : List Json :=
  ts.map .string

/-- The members whose values are the strings of some texts. -/
def textMembers (entries : List (Text × Text)) : List (Text × Json) :=
  entries.map fun e => (e.1, .string e.2)

-- ════════════════════════════════════════════════════════════════════════
-- Reading tokens
-- ════════════════════════════════════════════════════════════════════════

open Draft (Frame Progress run finish)

variable {frames : List Frame} {tokens : List Token}

/-- Items are read alike at the start of an array and behind a comma. -/
theorem run_firstItem (v : Json) (vs : List Json) :
    run (.reading frames .firstItem) (itemTokens (v :: vs) ++ tokens) =
      run (.reading frames .value) (itemTokens (v :: vs) ++ tokens) := by
  obtain ⟨ts, hts⟩ : ∃ ts, itemTokens (v :: vs) = toTokens v ++ ts := by
    cases vs with
    | nil => exact ⟨[], (List.append_nil _).symm⟩
    | cons v' vs => exact ⟨_, rfl⟩
  rw [hts, List.append_assoc]
  cases v <;> rfl

/-- Members are read alike at the start of an object and behind a comma. -/
theorem run_firstKey (m : Text × Json) (ms : List (Text × Json)) :
    run (.reading frames .firstKey) (memberTokens (m :: ms) ++ tokens) =
      run (.reading frames .key) (memberTokens (m :: ms) ++ tokens) := by
  obtain ⟨k, v⟩ := m
  cases ms <;> rfl

mutual

/-- The tokens of a value complete its draft inside any containers. -/
theorem run_toTokens : ∀ (v : Json) {frames : List Frame} {tokens : List Token},
    run (.reading frames .value) (toTokens v ++ tokens) = run (finish (toDraft v) frames) tokens
  | null, _, _ => rfl
  | bool _, _, _ => rfl
  | number _, _, _ => rfl
  | string _, _, _ => rfl
  | array [], _, _ => rfl
  | array (v :: vs), frames, tokens => by
    have hitems := @run_itemTokens (v :: vs) (List.cons_ne_nil v vs) [] frames tokens
    rw [← run_firstItem] at hitems
    rw [toTokens, List.append_assoc]
    exact hitems
  | object [], _, _ => rfl
  | object (m :: ms), frames, tokens => by
    have hmembers := @run_memberTokens (m :: ms) (List.cons_ne_nil m ms) [] frames tokens
    rw [← run_firstKey] at hmembers
    rw [toTokens, List.append_assoc]
    exact hmembers

/-- The tokens of the items of an array complete the array. -/
theorem run_itemTokens : ∀ (vs : List Json) (_ : vs ≠ []) {done : List Draft} {frames : List Frame}
    {tokens : List Token},
      run (.reading (.array done :: frames) .value) (itemTokens vs ++ .closeArray :: tokens) =
        run (finish (.array (done.reverse ++ itemDrafts vs) none) frames) tokens
  | [v], _, done, frames, tokens => by
    have hv := @run_toTokens v (.array done :: frames) (.closeArray :: tokens)
    have hclose : (toDraft v :: done).reverse = done.reverse ++ itemDrafts [v] :=
      List.reverse_cons
    rw [itemTokens, hv, ← hclose]
    rfl
  | v :: v' :: vs, _, done, frames, tokens => by
    have hv := @run_toTokens v (.array done :: frames)
      (.comma :: (itemTokens (v' :: vs) ++ .closeArray :: tokens))
    have hvs := @run_itemTokens (v' :: vs) (List.cons_ne_nil v' vs) (toDraft v :: done) frames
      tokens
    have htokens : itemTokens (v :: v' :: vs) = toTokens v ++ .comma :: itemTokens (v' :: vs) := rfl
    rw [List.reverse_cons, List.append_assoc] at hvs
    rw [htokens, List.append_assoc, List.cons_append, hv]
    exact hvs

/-- The tokens of the members of an object complete the object. -/
theorem run_memberTokens : ∀ (ms : List (Text × Json)) (_ : ms ≠ [])
    {done : List (Option Text × Draft)} {frames : List Frame} {tokens : List Token},
      run (.reading (.object done :: frames) .key) (memberTokens ms ++ .closeObject :: tokens) =
        run (finish (.object (done.reverse ++ memberDrafts ms) none) frames) tokens
  | [(k, v)], _, done, frames, tokens => by
    have hv := @run_toTokens v (.member done (some k) :: frames) (.closeObject :: tokens)
    have hclose : ((some k, toDraft v) :: done).reverse = done.reverse ++ memberDrafts [(k, v)] :=
      List.reverse_cons
    rw [← hclose]
    exact hv
  | (k, v) :: m :: ms, _, done, frames, tokens => by
    have hv := @run_toTokens v (.member done (some k) :: frames)
      (.comma :: (memberTokens (m :: ms) ++ .closeObject :: tokens))
    have hms := @run_memberTokens (m :: ms) (List.cons_ne_nil m ms) ((some k, toDraft v) :: done)
      frames tokens
    have htokens : memberTokens ((k, v) :: m :: ms) =
        .string (some k) :: .colon :: toTokens v ++ .comma :: memberTokens (m :: ms) := rfl
    rw [List.reverse_cons, List.append_assoc] at hms
    rw [htokens, List.append_assoc, List.cons_append]
    exact hv.trans hms

end

/-- The draft of a document that spells a value, behind which there is nothing. -/
theorem ofTokens_documentSpelledBy {v : Json} {t : Text} (h : DocumentSpelledBy v t) :
    Draft.ofTokens (Json.tokens t) = (toDraft v, []) := by
  have hrun := @run_toTokens v [] []
  rw [List.append_nil] at hrun
  rw [tokens_documentSpelledBy h, Draft.ofTokens, hrun]
  rfl

/-- Parsing a document that spells a value gives the value. -/
theorem parse?_documentSpelledBy {v : Json} {t : Text} (h : DocumentSpelledBy v t) :
    parse? t = some v := by
  rw [parse?, ofTokens_documentSpelledBy h]
  exact whole?_toDraft v

end Telemetry.Json
