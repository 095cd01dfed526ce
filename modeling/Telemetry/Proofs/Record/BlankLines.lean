import Telemetry.Proofs.Collection.Traversal
import Telemetry.Proofs.Record.Columns
import Telemetry.Proofs.Record.Identifiers

/-!
# Blank lines

Each format that reads line by line has its own way to make no record of a blank line: paired lines
are refused, blocks without a field are dropped, and a blank line has not as many fields as a table
has columns. The last fails where the columns are named by a line that is blank itself: such a table
has no columns, and every blank line behind the header is a row of it.

## Main definitions

- `Format.ReadsLines` — the formats that read line by line
- `Table.BlankHeader` — the columns of a table are named by a blank line
- `Table.BlankRow` — a line is a row of a table without columns

## Main statements

- `Table.records_of_blankHeader` — the records of a table without columns
- `Format.exists_contains_of_mem` — every other record has a field
- `Format.records_blank_lines` — when a record has no field, and what metrics are made for
-/

namespace Telemetry

open KeyRow (linesOf)

/-- Whether a line holds blanks at most. -/
def Text.isBlankLine (line : Text) : Bool :=
  line.all Text.isBlank

theorem Text.fields_eq_nil_iff_isBlankLine {line : Text} :
    line.fields = [] ↔ line.isBlankLine := by
  rw [Text.fields_eq_nil_iff, Text.isBlankLine, List.all_eq_true]

-- ════════════════════════════════════════════════════════════════════════
-- Tables
-- ════════════════════════════════════════════════════════════════════════

namespace Table

/-- The first line behind the skipped ones, which names the columns of a table, is blank. -/
def BlankHeader (skip : Nat) (data : Text) : Prop :=
  ∃ header, (linesOf data)[skip]? = some header ∧ header.isBlankLine

/-- A line with a given number is blank and stands behind a blank header. -/
structure BlankRow (skip : Nat) (data : Text) (k : Nat) : Prop where
  header : BlankHeader skip data
  behind : skip < k
  blank : ∃ line, (linesOf data)[k]? = some line ∧ line.isBlankLine

variable {skip : Nat} {data : Text} {r : Record}

/-- Without columns the blank lines are rows, and their records are empty. -/
theorem filterMap_row?_nil (lines : List Text) :
    lines.filterMap (row? []) =
      List.replicate (lines.countP Text.isBlankLine) SortedMap.empty := by
  induction lines with
  | nil => rfl
  | cons line lines ih =>
    by_cases hblank : line.isBlankLine
    · have hrow : row? [] line = some SortedMap.empty := by
        rw [row?, Text.fields_eq_nil_iff_isBlankLine.mpr hblank]
        rfl
      rw [List.filterMap_cons_some hrow, ih, List.countP_cons_of_pos hblank, List.replicate_succ]
    · have hrow : row? [] line = none :=
        if_neg fun hlength =>
          hblank (Text.fields_eq_nil_iff_isBlankLine.mp (List.length_eq_zero_iff.mp hlength))
      rw [List.filterMap_cons_none hrow, ih, List.countP_cons_of_neg hblank]

/-- A table with a blank header has an empty record for every blank line behind it. -/
theorem records_of_blankHeader (h : BlankHeader skip data) :
    records [] skip data =
      List.replicate (((linesOf data).drop (skip + 1)).countP Text.isBlankLine)
        SortedMap.empty := by
  obtain ⟨header, hheader, hblank⟩ := h
  obtain ⟨hlt, heq⟩ := List.getElem?_eq_some_iff.mp hheader
  have hdrop : (linesOf data).drop skip = header :: (linesOf data).drop (skip + 1) := by
    rw [List.drop_eq_getElem_cons hlt, heq]
  have hfields : header.fields = [] := Text.fields_eq_nil_iff_isBlankLine.mpr hblank
  rw [records_eq_rows, hdrop, rows, hfields, filterMap_row?_nil]

/-- There is a blank line behind a blank header exactly if one is counted there. -/
theorem exists_blankRow_iff (hheader : BlankHeader skip data) :
    (∃ k, BlankRow skip data k) ↔
      0 < ((linesOf data).drop (skip + 1)).countP Text.isBlankLine := by
  rw [List.countP_pos_iff]
  constructor
  · rintro ⟨k, -, hbehind, line, hline, hblank⟩
    refine ⟨line, List.mem_of_getElem? (i := k - (skip + 1)) ?_, hblank⟩
    rw [List.getElem?_drop, Nat.add_sub_cancel' hbehind, hline]
  · rintro ⟨line, hmem, hblank⟩
    obtain ⟨i, hi⟩ := List.getElem?_of_mem hmem
    rw [List.getElem?_drop] at hi
    exact ⟨skip + 1 + i, hheader, by omega, line, hi, hblank⟩

/-- The rows of a table with columns have a field at least. -/
theorem exists_contains_of_ne_nil {columns : List Text} (hcolumns : columns ≠ [])
    (h : r ∈ records columns skip data) : ∃ name, r.contains name := by
  rw [records_of_ne_nil hcolumns] at h
  obtain ⟨line, -, hrow⟩ := List.mem_filterMap.mp h
  obtain ⟨name, hname⟩ := List.exists_mem_of_ne_nil columns hcolumns
  rw [row?] at hrow
  split at hrow
  case isTrue hfit =>
    cases hrow
    exact ⟨name, ((Record.hasColumns_ofColumns hfit).key name).mpr hname⟩
  case isFalse => cases hrow

/-- The rows of a table have a field at least, unless it has no columns because of a blank
    header. -/
theorem exists_contains_of_not_blankHeader (hheader : ¬ BlankHeader skip data)
    (h : r ∈ records [] skip data) : ∃ name, r.contains name := by
  cases hline : (linesOf data)[skip]? with
  | none =>
    rw [records_of_length_le (List.getElem?_eq_none_iff.mp hline)] at h
    cases h
  | some line =>
    have hfields : line.fields ≠ [] := fun hnil =>
      hheader ⟨line, hline, Text.fields_eq_nil_iff_isBlankLine.mp hnil⟩
    rw [records_inferred hline hfields] at h
    exact exists_contains_of_ne_nil hfields h

end Table

-- ════════════════════════════════════════════════════════════════════════
-- Blocks and pairs
-- ════════════════════════════════════════════════════════════════════════

/-- Blocks without a field are dropped. -/
theorem KeyValue.exists_contains_of_mem {recordSeparator fieldSeparator data : Text} {r : Record}
    (h : r ∈ records recordSeparator fieldSeparator data) : ∃ name, r.contains name := by
  obtain ⟨-, hfilled⟩ := List.mem_filter.mp h
  exact (SortedMap.isEmpty_eq_false_iff r).mp (by simpa using hfilled)

/-- The record of two lines always has the field of their identifier. -/
theorem KeyRow.contains_idField_of_mem {data : Text} {rs : List Record} {r : Record}
    (h : records data = .ok rs) (hr : r ∈ rs) : r.contains idField := by
  obtain ⟨k, hk⟩ := List.getElem?_of_mem hr
  obtain ⟨headerLine, valueLine, -, hpair⟩ := (pair_of_pairs (records_eq_ok_iff.mp h).2).2 k r hk
  exact ((rowOf_of_pair hpair).key idField).mpr (.inl rfl)

-- ════════════════════════════════════════════════════════════════════════
-- Formats
-- ════════════════════════════════════════════════════════════════════════

namespace Format

/-- The formats that read line by line: all but the one by pattern. -/
def ReadsLines : Format → Prop
  | .regexp .. => False
  | _ => True

/-- The format is a table without given columns, and the line that names them is blank. -/
def BlankHeader (data : Text) : Format → Prop
  | .table [] skip => Table.BlankHeader skip data
  | _ => False

variable {format : Format} {data : Text} {rs : List Record} {r : Record}

/-- A record of lines has a field at least, unless the header of its table is blank. -/
theorem exists_contains_of_mem (hlines : format.ReadsLines) (hheader : ¬ format.BlankHeader data)
    (h : format.records data = .ok rs) (hr : r ∈ rs) : ∃ name, r.contains name := by
  cases format with
  | table columns skip =>
    cases h
    cases columns with
    | nil => exact Table.exists_contains_of_not_blankHeader hheader hr
    | cons column columns => exact Table.exists_contains_of_ne_nil (List.cons_ne_nil _ _) hr
  | keyValue recordSeparator fieldSeparator =>
    cases h
    exact KeyValue.exists_contains_of_mem hr
  | keyRow => exact ⟨KeyRow.idField, KeyRow.contains_idField_of_mem h hr⟩
  | regexp recordSeparator columns pattern => exact hlines.elim

/-- A format that reads lines gives a record without a field exactly if it is a table without
    given columns, the line that names them is blank, and a line behind it is blank too. -/
theorem exists_not_contains_iff (hlines : format.ReadsLines) (h : format.records data = .ok rs) :
    (∃ r ∈ rs, ∀ name, r.contains name = false) ↔
      ∃ skip k, format = .table [] skip ∧ Table.BlankRow skip data k := by
  by_cases hheader : format.BlankHeader data
  · obtain ⟨skip, rfl⟩ : ∃ skip, format = .table [] skip := by
      cases format with
      | table columns skip =>
        cases columns with
        | nil => exact ⟨skip, rfl⟩
        | cons column columns => exact hheader.elim
      | _ => exact hheader.elim
    change Table.BlankHeader skip data at hheader
    obtain rfl := Except.ok.inj h
    rw [Table.records_of_blankHeader hheader]
    constructor
    · rintro ⟨r, hr, -⟩
      have hpos := Nat.pos_of_ne_zero (List.mem_replicate.mp hr).1
      obtain ⟨k, hk⟩ := (Table.exists_blankRow_iff hheader).mpr hpos
      exact ⟨skip, k, rfl, hk⟩
    · rintro ⟨skip', k, hformat, hk⟩
      cases hformat
      have hpos := (Table.exists_blankRow_iff hheader).mp ⟨k, hk⟩
      exact ⟨.empty, List.mem_replicate.mpr ⟨Nat.ne_of_gt hpos, rfl⟩, fun name => rfl⟩
  · constructor
    · rintro ⟨r, hr, hnone⟩
      obtain ⟨name, hname⟩ := exists_contains_of_mem hlines hheader h hr
      cases hname.symm.trans (hnone name)
    · rintro ⟨skip, k, rfl, hk⟩
      exact absurd hk.header hheader

end Format

-- ════════════════════════════════════════════════════════════════════════
-- Metrics
-- ════════════════════════════════════════════════════════════════════════

namespace Configuration

variable {c : Configuration} {source : Source}

/-- The records that a collection goes through are those of its files. -/
theorem exists_records_of_mem_occasions {o : Occasion} (h : o ∈ c.occasions source) :
    ∃ contents rs, source.read o.path = .ok contents ∧ c.format.records contents = .ok rs ∧
      o.path ∈ c.files source ∧ o.record ∈ rs := by
  obtain ⟨path, hpath, ho⟩ := List.mem_flatMap.mp h
  obtain ⟨record, hrecord, ho⟩ := List.mem_flatMap.mp ho
  obtain ⟨m, -, rfl⟩ := List.mem_map.mp ho
  rw [recordsAt] at hrecord
  cases hread : source.read path with
  | error e =>
    rw [hread] at hrecord
    cases hrecord
  | ok contents =>
    rw [hread] at hrecord
    dsimp only [recordsOf] at hrecord
    cases hrecords : c.format.records contents with
    | error e =>
      rw [hrecords] at hrecord
      cases hrecord
    | ok rs =>
      rw [hrecords] at hrecord
      exact ⟨contents, rs, rfl, hrecords, hpath, hrecord⟩

end Configuration

namespace Format

/-- The formats that read line by line give a record without a field exactly for a blank line behind
    a blank line that should name the columns of a table; such a table has one for each blank line
    behind its header, and no other record. Where no file holds such a line, every metric is made
    for a record with a field, so that blank lines give no metrics. -/
theorem records_blank_lines {format : Format} (hlines : format.ReadsLines) :
    (∀ data rs, format.records data = .ok rs →
      ((∃ r ∈ rs, ∀ name, r.contains name = false) ↔
        ∃ skip k, format = .table [] skip ∧ Table.BlankRow skip data k)) ∧
    (∀ skip data, format = .table [] skip → Table.BlankHeader skip data →
      format.records data = .ok
        (List.replicate (((linesOf data).drop (skip + 1)).countP Text.isBlankLine) .empty)) ∧
    ∀ (c : Configuration) source defaults clock ms, c.format = format →
      c.collect source defaults clock = .ok ms →
      (∀ path ∈ c.files source, ∀ contents, source.read path = .ok contents →
        ∀ skip k, format = .table [] skip → ¬ Table.BlankRow skip contents k) →
      List.Forall₂ (Metric.MadeFor c defaults) (c.occasions source) ms ∧
        ∀ o ∈ c.occasions source, ∃ name, o.record.contains name := by
  refine ⟨fun data rs => exists_not_contains_iff hlines, ?_, ?_⟩
  · rintro skip data rfl hheader
    exact congrArg Except.ok (Table.records_of_blankHeader hheader)
  · rintro c source defaults clock ms rfl hms hnone
    refine ⟨c.madeFor_of_collect source defaults clock hms, fun o ho => ?_⟩
    obtain ⟨contents, rs, hread, hrecords, hpath, hrecord⟩ := c.exists_records_of_mem_occasions ho
    by_contra hfieldless
    have hempty : ∀ name, o.record.contains name = false := fun name =>
      Bool.eq_false_iff.mpr fun hname => hfieldless ⟨name, hname⟩
    obtain ⟨skip, k, hformat, hrow⟩ :=
      (exists_not_contains_iff hlines hrecords).mp ⟨o.record, hrecord, hempty⟩
    exact hnone o.path hpath contents hread skip k hformat hrow

/-- A table behind a title: with two blank lines where its header should be, and in order. -/
theorem records_blank_lines_behind_title :
    let format : Format := .table [] 1
    let measure : Measure := ⟨⟨[.static ['n']]⟩, ⟨['1'], [.literal (.text ['1'])]⟩⟩
    let c : Configuration := ⟨['f'], [measure], .empty, format⟩
    let source : Source := ⟨fun path => .ok [path], fun _ => .ok "title\nk\n\n5".toList⟩
    (∃ rs, format.records "title\n\n \n5".toList = .ok rs ∧
      ∃ r ∈ rs, ∀ name, r.contains name = false) ∧
    format.records "title\n\n \n5".toList = .ok [.empty] ∧
    ∃ m, c.collect source .empty (.fixed ⟨0, 0⟩) = .ok [m] ∧
      ∀ o ∈ c.occasions source, ∃ name, o.record.contains name := by
  intro format measure c source
  obtain ⟨hfieldless, hall, hmetrics⟩ := @records_blank_lines format trivial
  have hheader : Table.BlankHeader 1 "title\n\n \n5".toList := ⟨[], by decide, by decide⟩
  have hrecords := hall 1 _ rfl hheader
  refine ⟨⟨_, hrecords, (hfieldless _ _ hrecords).mpr
    ⟨1, 2, rfl, hheader, by decide, [' '], by decide, by decide⟩⟩, hrecords, ?_⟩
  refine ⟨_, rfl, (hmetrics c source .empty (.fixed ⟨0, 0⟩) _ rfl rfl ?_).2⟩
  intro path _ contents hcontents skip k hskip hrow
  obtain rfl : 1 = skip := (Format.table.inj hskip).2
  obtain rfl := Except.ok.inj hcontents
  obtain ⟨header, hline, hblank⟩ := hrow.header
  obtain rfl : ['k'] = header := Option.some.inj (Eq.trans (by decide) hline)
  exact absurd hblank (by decide)

/-- Two blank lines behind a title are a header without columns and a record without fields, and
    this record has a metric of its own if the metric needs no field. -/
theorem not_records_filled :
    (¬ ∀ (format : Format) data rs, format.ReadsLines → format.records data = .ok rs →
      ∀ r ∈ rs, ∃ name, r.contains name) ∧
    let measure : Measure := ⟨⟨[.static ['n']]⟩, ⟨['1'], [.literal (.text ['1'])]⟩⟩
    let c : Configuration := ⟨['f'], [measure], .empty, .table [] 1⟩
    let source : Source := ⟨fun path => .ok [path], fun _ => .ok "title\n\n\n1 2".toList⟩
    (c.collect source .empty (.fixed ⟨0, 0⟩)).map (·.map Metric.value) =
      .ok [.text ['1']] := by
  refine ⟨fun h => ?_, rfl⟩
  have hrecords : (Format.table [] 1).records "title\n\n\n1 2".toList = .ok [.empty] := rfl
  obtain ⟨name, hname⟩ := h (.table [] 1) _ _ trivial hrecords .empty List.mem_cons_self
  cases hname

end Format

end Telemetry
