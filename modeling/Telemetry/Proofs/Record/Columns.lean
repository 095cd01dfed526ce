import Telemetry.Proofs.Record.PairedLines
import Telemetry.Record.Table

/-!
# Rows of a table

A table has one record for each line behind the skipped ones with a field for every column, in
order, and a record has just the names of the columns. Names that stand in the text itself are the
same as names that are given: the header line is one more line to skip.

## Main definitions

- `Record.HasColumns` — a record holds tokens under column names
- `Table.rowLines` — the lines of a table that are rows
- `Table.recordsInRange?` — the records of a table, with the slice of its lines checked

## Main statements

- `Record.hasColumns_ofColumns` — the record of a row holds its tokens
- `Table.forall₂_rows` — one record for each row, in order
- `Table.records_schema` — all of this for the records of a text
-/

namespace Telemetry

open KeyRow (linesOf LastUnder exists_lastUnder)

-- ════════════════════════════════════════════════════════════════════════
-- Records of columns
-- ════════════════════════════════════════════════════════════════════════

namespace Record

/-- A record holds the tokens of a row under column names: it has these names and no others, each
    with the value of the token at the last position at which the name stands. -/
structure HasColumns (columns tokens : List Text) (r : Record) : Prop where
  key : ∀ name, r.contains name ↔ name ∈ columns
  value : ∀ name ∈ columns,
    ∃ token, LastUnder columns tokens name token ∧ r.get? name = some (Value.parse token)

variable {columns tokens : List Text}

/-- The record of a row with a token for every column holds these tokens. -/
theorem hasColumns_ofColumns (hlength : tokens.length = columns.length) :
    HasColumns columns tokens (ofColumns columns tokens) := by
  have hkeys : (columns.zip (tokens.map Value.parse)).map Prod.fst = columns :=
    List.map_fst_zip (by simp [hlength])
  refine ⟨fun name => ?_, fun name hname => exists_lastUnder hlength.symm hname []⟩
  rw [ofColumns, SortedMap.contains_ofList_iff, hkeys]

end Record

-- ════════════════════════════════════════════════════════════════════════
-- Blank lines
-- ════════════════════════════════════════════════════════════════════════

/-- A text of blanks has no fields, and no other text. -/
theorem Text.fields_eq_nil_iff {t : Text} : t.fields = [] ↔ ∀ c ∈ t, Text.isBlank c := by
  rw [Text.fields, List.filter_eq_nil_iff]
  induction t with
  | nil => simp [Text.splitWhere]
  | cons c t ih =>
    rw [Text.splitWhere, List.forall_mem_cons, ← ih]
    by_cases hc : Text.isBlank c = true
    · rw [if_pos hc, List.forall_mem_cons]
      simp [hc]
    · rw [if_neg hc]
      cases hs : Text.splitWhere Text.isBlank t with
      | nil => exact absurd hs (Text.splitWhere_ne_nil _ t)
      | cons piece pieces => simp [hc]

-- ════════════════════════════════════════════════════════════════════════
-- Tables
-- ════════════════════════════════════════════════════════════════════════

namespace Table

/-- The lines of a table that are rows, in order: of those with a number from a given one on, the
    ones with as many fields as there are columns. -/
def rowLines (columns : List Text) (skip : Nat) (lines : List Text) : List Text :=
  ((lines.zipIdx.filter fun (_, number) => skip ≤ number).map Prod.fst).filter fun line =>
    line.fields.length = columns.length

variable {columns : List Text}

/-- The items with a number from a given one on are those behind the ones that are skipped. -/
theorem map_fst_filter_zipIdx {α : Type} (skip first : Nat) (items : List α) :
    ((items.zipIdx first).filter fun (_, number) => skip ≤ number).map Prod.fst =
      items.drop (skip - first) := by
  induction items generalizing first with
  | nil => simp
  | cons item items ih =>
    have hrest := ih (first + 1)
    rw [List.zipIdx_cons, List.filter_cons]
    by_cases hskip : skip ≤ first
    · have hnone : skip - (first + 1) = 0 := by omega
      rw [hnone, List.drop_zero] at hrest
      rw [if_pos (by simpa using hskip), Nat.sub_eq_zero_of_le hskip, List.drop_zero,
        List.map_cons, hrest]
    · have hone : skip - first = skip - (first + 1) + 1 := by omega
      rw [if_neg (by simpa using hskip), hone, List.drop_succ_cons, hrest]

theorem rowLines_eq (columns : List Text) (skip : Nat) (lines : List Text) :
    rowLines columns skip lines =
      (lines.drop skip).filter fun line => line.fields.length = columns.length := by
  rw [rowLines, map_fst_filter_zipIdx, Nat.sub_zero]

/-- Lines give one record for each of them that is a row, in order. -/
theorem forall₂_rows (columns lines : List Text) :
    List.Forall₂ (fun line r => Record.HasColumns columns line.fields r)
      (lines.filter fun line => line.fields.length = columns.length)
      (lines.filterMap (row? columns)) := by
  induction lines with
  | nil => exact .nil
  | cons line lines ih =>
    by_cases hfit : line.fields.length = columns.length
    · have hrow : row? columns line = some (Record.ofColumns columns line.fields) := if_pos hfit
      rw [List.filter_cons_of_pos (by simpa using hfit), List.filterMap_cons_some hrow]
      exact .cons (Record.hasColumns_ofColumns hfit) ih
    · have hrow : row? columns line = none := if_neg hfit
      rwa [List.filter_cons_of_neg (by simpa using hfit), List.filterMap_cons_none hrow]

theorem rows_of_ne_nil (hcolumns : columns ≠ []) (lines : List Text) :
    rows columns lines = lines.filterMap (row? columns) := by
  cases columns with
  | nil => exact absurd rfl hcolumns
  | cons column columns => rfl

theorem records_eq_rows (columns : List Text) (skip : Nat) (data : Text) :
    records columns skip data = rows columns ((linesOf data).drop skip) :=
  rfl

theorem records_of_ne_nil (hcolumns : columns ≠ []) (skip : Nat) (data : Text) :
    records columns skip data = ((linesOf data).drop skip).filterMap (row? columns) :=
  rows_of_ne_nil hcolumns _

/-- Without column names the first line behind the skipped ones gives them. -/
theorem records_inferred {skip : Nat} {data line : Text} (hline : (linesOf data)[skip]? = some line)
    (hfields : line.fields ≠ []) :
    records [] skip data = records line.fields (skip + 1) data := by
  obtain ⟨hlt, heq⟩ := List.getElem?_eq_some_iff.mp hline
  have hdrop : (linesOf data).drop skip = line :: (linesOf data).drop (skip + 1) := by
    rw [List.drop_eq_getElem_cons hlt, heq]
  rw [records_eq_rows, hdrop, records_of_ne_nil hfields]
  rfl

theorem records_of_length_le {skip : Nat} {data : Text} (hskip : (linesOf data).length ≤ skip) :
    records [] skip data = [] := by
  rw [records_eq_rows, List.drop_eq_nil_of_le hskip]
  rfl

-- ════════════════════════════════════════════════════════════════════════
-- Slices in range
-- ════════════════════════════════════════════════════════════════════════

/-- The items of a list from an index on; nothing if the index is out of range. -/
def sliceFrom? {α : Type} (items : List α) (start : Nat) : Option (List α) :=
  if start ≤ items.length then some (items.drop start) else none

/-- The records of a text, where more lines to skip than there are give none and otherwise the lines
    are sliced; nothing if that slice is out of range. -/
def recordsInRange? (columns : List Text) (skip : Nat) (data : Text) : Option (List Record) :=
  if (linesOf data).length < skip then some []
  else (sliceFrom? (linesOf data) skip).map (rows columns)

/-- However many lines are to be skipped, the slice is in range. -/
theorem recordsInRange?_eq (columns : List Text) (skip : Nat) (data : Text) :
    recordsInRange? columns skip data = some (records columns skip data) := by
  rw [recordsInRange?]
  split
  case isTrue hlarge =>
    rw [records_eq_rows, List.drop_eq_nil_of_le (Nat.le_of_lt hlarge)]
    cases columns <;> rfl
  case isFalse hsmall =>
    rw [sliceFrom?, if_pos (Nat.le_of_not_lt hsmall)]
    rfl

-- ════════════════════════════════════════════════════════════════════════
-- Texts
-- ════════════════════════════════════════════════════════════════════════

/-- With column names a table has one record for each row behind the skipped lines, in order, and
    the record has just these names. Without them it is the table with the fields of the first line
    behind the skipped ones as its names and that line skipped too, unless that line is blank; it is
    empty if there is no such line. No number of lines to skip is out of range. -/
theorem records_schema :
    (∀ columns skip data, columns ≠ [] →
      List.Forall₂ (fun line r => Record.HasColumns columns line.fields r)
        (rowLines columns skip (linesOf data)) (records columns skip data)) ∧
    (∀ skip data line, (linesOf data)[skip]? = some line → (∃ c ∈ line, ¬ Text.isBlank c) →
      records [] skip data = records line.fields (skip + 1) data) ∧
    (∀ skip data, (linesOf data).length ≤ skip → records [] skip data = []) ∧
    ∀ columns skip data, recordsInRange? columns skip data = some (records columns skip data) := by
  refine ⟨fun columns skip data hcolumns => ?_, fun skip data line hline hfilled => ?_,
    fun skip data => records_of_length_le, recordsInRange?_eq⟩
  · rw [records_of_ne_nil hcolumns, rowLines_eq]
    exact forall₂_rows columns _
  · refine records_inferred hline fun hnil => ?_
    obtain ⟨c, hc, hnot⟩ := hfilled
    exact hnot (Text.fields_eq_nil_iff.mp hnil c hc)

/-- A name that stands twice, a row that is too short, and numbers of lines to skip around the
    number of lines there are. -/
theorem records_schema_repeated_name :
    let data := "\nx y\n1 2 3\n4 5\n 6 7 8 \n".toList
    let columns := [['a'], ['b'], ['a']]
    (∃ r s, records columns 1 data = [r, s] ∧
      r.get? ['a'] = some (Value.parse ['3']) ∧ s.get? ['a'] = some (Value.parse ['8'])) ∧
    records [] 0 data = records [['x'], ['y']] 1 data ∧
    records [] 4 data = [] ∧ recordsInRange? [] 5 data = some [] := by
  intro data columns
  have hlast : ∀ token first second, LastUnder columns [first, second, token] ['a'] token :=
    fun _ _ _ => ⟨2, rfl, rfl, List.not_mem_nil⟩
  refine ⟨?_, ?_, ?_, ?_⟩
  · have hrows : rowLines columns 1 (linesOf data) = ["1 2 3".toList, " 6 7 8 ".toList] := by decide
    have hrecords := records_schema.1 columns 1 data (List.cons_ne_nil _ _)
    rw [hrows] at hrecords
    generalize records columns 1 data = rs at hrecords ⊢
    obtain _ | ⟨hr, _ | ⟨hs, ⟨⟩⟩⟩ := hrecords
    rename_i r s
    obtain ⟨token, htoken, hget⟩ := hr.value ['a'] List.mem_cons_self
    obtain ⟨token', htoken', hget'⟩ := hs.value ['a'] List.mem_cons_self
    have heq : token = ['3'] := htoken.unique (hlast ['3'] ['1'] ['2'])
    have heq' : token' = ['8'] := htoken'.unique (hlast ['8'] ['6'] ['7'])
    exact ⟨r, s, rfl, heq ▸ hget, heq' ▸ hget'⟩
  · exact records_schema.2.1 0 data "x y".toList (by decide) ⟨'x', by decide, by decide⟩
  · exact records_schema.2.2.1 4 data (by decide)
  · rw [records_schema.2.2.2, records_schema.2.2.1 5 data (by decide)]

end Table

end Telemetry
