import Telemetry.Proofs.Collection.Layers
import Telemetry.Proofs.SortedMap
import Telemetry.Proofs.Text.Splitting
import Telemetry.Proofs.Text.Stripping
import Telemetry.Record.KeyValue

/-!
# Lines of keys and values as assignments

A line with at least two fields assigns its second field to the key that its first field spells. The
record of a text is what its lines assign one after the other, however a key is padded, so the
record of two texts with a line feed between them is that of the second one written over that of the
first. Lines with fewer fields count for nothing; if the separator has a line feed in it, that is
all lines.

## Main definitions

- `KeyValue.Spells` — a field is a key between padding
- `KeyValue.Assigns` — a line assigns a token to a key
- `KeyValue.LastAssigned` — what the last line of a text for a key assigns to it
- `KeyValue.fullLines` — the lines with at least two fields

## Main statements

- `KeyValue.spells_iff_stripsTo` — the padding around a key are blanks and colons
- `KeyValue.block_append` — lines behind others write their record over that of the others
- `KeyValue.get?_block_eq_some_iff` — a record holds what is assigned last
- `KeyValue.block_eq_of_fullLines_eq` — a record comes of the lines with at least two fields
- `KeyValue.block_assignments` — all three, for every separator
-/

namespace Telemetry.KeyValue

-- ════════════════════════════════════════════════════════════════════════
-- Lines
-- ════════════════════════════════════════════════════════════════════════

/-- A field spells a key: it is the key with any padding around it, and the key has no padding at
    its own ends. -/
structure Spells (field key : Text) : Prop where
  padded : ∃ before after, field = before ++ key ++ after ∧ (∀ c ∈ before, isKeyPadding c) ∧
    ∀ c ∈ after, isKeyPadding c
  head_bare : ∀ c ∈ key.head?, isKeyPadding c = false
  last_bare : ∀ c ∈ key.getLast?, isKeyPadding c = false

/-- A line assigns a token to a key: its first field spells the key, and the token is the second. -/
def Assigns (separator line key token : Text) : Prop :=
  ∃ field rest, tokens separator line = field :: token :: rest ∧ Spells field key

/-- A token is assigned to a key by a line of a text, and no later line assigns one to it. -/
def LastAssigned (separator data key token : Text) : Prop :=
  ∃ before line after, data.lines = before ++ line :: after ∧ Assigns separator line key token ∧
    ∀ later ∈ after, ∀ token', ¬ Assigns separator later key token'

/-- The lines of a text with at least two fields. -/
def fullLines (separator data : Text) : List Text :=
  data.lines.filter fun line => 2 ≤ (tokens separator line).length

variable {separator line key field data : Text} {v : Value}

/-- The padding around a key are blanks and colons. -/
theorem spells_iff_stripsTo :
    Spells field key ↔ Text.StripsTo (fun c => Text.isBlank c ∨ c = ':') field key := by
  simp only [← isKeyPadding_iff]
  constructor
  · rintro ⟨padded, head, last⟩
    exact ⟨padded, fun c hc => Bool.eq_false_iff.mp (head c hc),
      fun c hc => Bool.eq_false_iff.mp (last c hc)⟩
  · rintro ⟨padded, head, last⟩
    exact ⟨padded, fun c hc => Bool.eq_false_iff.mpr (head c hc),
      fun c hc => Bool.eq_false_iff.mpr (last c hc)⟩

theorem spells_iff : Spells field key ↔ field.strip isKeyPadding = key := by
  rw [spells_iff_stripsTo, Text.strip_eq_iff fun _ => isKeyPadding_iff]

/-- The key and the value of a line are those of its assignment. -/
theorem pair?_eq_some_iff :
    pair? separator line = some (key, v) ↔
      ∃ token, Assigns separator line key token ∧ v = .parse token := by
  unfold pair? Assigns
  constructor
  · intro h
    split at h
    · rename_i field token rest htokens
      obtain ⟨rfl, rfl⟩ := Prod.mk.inj (Option.some.inj h)
      exact ⟨token, ⟨field, rest, htokens, spells_iff.mpr rfl⟩, rfl⟩
    · cases h
  · rintro ⟨token, ⟨field, rest, htokens, hspells⟩, rfl⟩
    rw [htokens]
    exact congrArg (fun k => some (k, Value.parse token)) (spells_iff.mp hspells)

theorem pair?_eq_none_iff :
    pair? separator line = none ↔ (tokens separator line).length < 2 := by
  unfold pair?
  split
  · rename_i field token rest htokens
    simp [htokens]
  · rename_i hshort
    -- A list that is no `field :: token :: rest` has one member at most.
    match htokens : tokens separator line with
    | [] => simp
    | [_] => simp
    | field :: token :: rest => exact absurd htokens (hshort field token rest)

/-- A line without a line feed in it is not split by a separator with one. -/
theorem tokens_of_lineFeed_mem (hseparator : '\n' ∈ separator) (hline : '\n' ∉ line) :
    tokens separator line = [line] := by
  have ne : separator ≠ [] := List.ne_nil_of_mem hseparator
  have hempty : ¬ separator.isEmpty := mt List.isEmpty_iff.mp ne
  have hjoin := Text.join_splitText ne line
  rw [tokens, if_neg hempty]
  cases hpieces : Text.splitText separator line with
  | nil => exact absurd hpieces (Text.splitText_ne_nil separator line)
  | cons piece pieces =>
    rw [hpieces] at hjoin
    by_cases hnil : pieces = []
    · rw [hnil, Text.join_singleton] at hjoin
      rw [hnil, hjoin]
    · rw [Text.join_cons separator piece hnil] at hjoin
      refine absurd ?_ hline
      rw [← hjoin]
      simp [hseparator]

-- ════════════════════════════════════════════════════════════════════════
-- Records
-- ════════════════════════════════════════════════════════════════════════

/-- Lines behind others write their record over that of the others. -/
theorem block_append (separator a b : Text) :
    block separator (a ++ '\n' :: b) = (block separator b).over (block separator a) := by
  refine SortedMap.ext_get? fun key => ?_
  rw [block, Text.lines_append, List.filterMap_append, SortedMap.get?_ofList_append,
    Record.get?_over, Record.fieldOrDefault_eq_or]
  rfl

/-- A record holds the values of the tokens that are assigned last. -/
theorem get?_block_eq_some_iff :
    (block separator data).get? key = some v ↔
      ∃ token, LastAssigned separator data key token ∧ v = .parse token := by
  have hfree : ∀ line, (∀ w, pair? separator line ≠ some (key, w)) ↔
      ∀ token, ¬ Assigns separator line key token := by
    intro line
    simp only [ne_eq, pair?_eq_some_iff, not_exists, not_and]
    exact ⟨fun h token hassigns => h _ token hassigns rfl, fun h w token hassigns =>
      absurd hassigns (h token)⟩
  rw [block, SortedMap.get?_ofList_filterMap_eq_some_iff]
  constructor
  · rintro ⟨before, line, after, hlines, hpair, hafter⟩
    obtain ⟨token, hassigns, rfl⟩ := pair?_eq_some_iff.mp hpair
    exact ⟨token, ⟨before, line, after, hlines, hassigns,
      fun later hlater => (hfree later).mp (hafter later hlater)⟩, rfl⟩
  · rintro ⟨token, ⟨before, line, after, hlines, hassigns, hafter⟩, rfl⟩
    exact ⟨before, line, after, hlines, pair?_eq_some_iff.mpr ⟨token, hassigns, rfl⟩,
      fun later hlater => (hfree later).mpr (hafter later hlater)⟩

theorem block_eq_ofList_fullLines (separator data : Text) :
    block separator data =
      SortedMap.ofList ((fullLines separator data).filterMap (pair? separator)) := by
  rw [block, fullLines, List.filterMap_filter]
  refine congrArg SortedMap.ofList (List.filterMap_congr fun line _ => ?_)
  split
  · rfl
  · rename_i hshort
    rw [decide_eq_true_eq, Nat.not_le] at hshort
    exact pair?_eq_none_iff.mpr hshort

/-- Texts with the same lines of at least two fields have the same record. -/
theorem block_eq_of_fullLines_eq {data' : Text}
    (h : fullLines separator data = fullLines separator data') :
    block separator data = block separator data' := by
  rw [block_eq_ofList_fullLines, h, ← block_eq_ofList_fullLines]

/-- Under a separator with a line feed in it no line has two fields. -/
theorem fullLines_of_lineFeed_mem (h : '\n' ∈ separator) (data : Text) :
    fullLines separator data = [] := by
  refine List.filter_eq_nil_iff.mpr fun line hline => ?_
  rw [tokens_of_lineFeed_mem h (Text.not_mem_of_mem_splitChar hline)]
  simp

/-- The record of a text with more lines behind it is that of the added lines written over its own.
    A record holds for each key the value of the second field of the last line that spells the key,
    and has no other keys. Lines with fewer than two fields change nothing, wherever they stand; if
    the separator has a line feed in it there are no others, and the record is empty. -/
theorem block_assignments (separator : Text) :
    (∀ a b, block separator (a ++ '\n' :: b) = (block separator b).over (block separator a)) ∧
    (∀ data key v, (block separator data).get? key = some v ↔
      ∃ token, LastAssigned separator data key token ∧ v = .parse token) ∧
    (∀ data data', fullLines separator data = fullLines separator data' →
      block separator data = block separator data') ∧
    ('\n' ∈ separator → ∀ data, block separator data = .empty) := by
  refine ⟨block_append separator, fun data key v => get?_block_eq_some_iff,
    fun data data' => block_eq_of_fullLines_eq, fun h data => ?_⟩
  rw [block_eq_ofList_fullLines, fullLines_of_lineFeed_mem h]
  rfl

/-- Two spellings of one key, a line without a value between them, and a separator with a line feed
    in it. -/
theorem block_assignments_two_spellings :
    let first := "foo = 1".toList
    let last := "\t:foo: = 2 = 3".toList
    let data := first ++ '\n' :: ("lonely\n".toList ++ last ++ ['\n'])
    let kept := first ++ '\n' :: last
    block ['='] kept = (block ['='] last).over (block ['='] first) ∧
      fullLines ['='] data = fullLines ['='] kept ∧ block ['='] data = block ['='] kept ∧
      LastAssigned ['='] data "foo".toList " 2 ".toList ∧
      (block ['='] data).get? "foo".toList = some (.parse " 2 ".toList) ∧
      '\n' ∈ ['=', '\n'] ∧ block ['=', '\n'] data = .empty := by
  intro first last data kept
  have hfull : fullLines ['='] data = fullLines ['='] kept := by decide +kernel
  have hlast : LastAssigned ['='] data "foo".toList " 2 ".toList := by
    refine ⟨[first, "lonely".toList], last, [[]], by decide,
      ⟨"\t:foo: ".toList, [" 3".toList], by decide +kernel, spells_iff.mpr (by decide)⟩, ?_⟩
    intro later hlater token'
    obtain rfl := List.mem_singleton.mp hlater
    rintro ⟨field, rest, htokens, -⟩
    have hempty : tokens ['='] [] = [[]] := by decide +kernel
    cases hempty.symm.trans htokens
  obtain ⟨happend, hget, hlines, -⟩ := block_assignments ['=']
  exact ⟨happend first last, hfull, hlines data kept hfull, hlast,
    (hget data _ _).mpr ⟨_, hlast, rfl⟩, by decide,
    (block_assignments ['=', '\n']).2.2.2 (by decide) data⟩

end Telemetry.KeyValue
