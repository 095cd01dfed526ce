import Telemetry.Proofs.Basic
import Telemetry.Proofs.SortedMap
import Telemetry.Proofs.Text.Stripping
import Telemetry.Record.KeyRow

/-!
# Paired lines

A text of header and value lines is accepted exactly if its lines come in pairs: the two lines of a
pair have equally many fields, at least one, and their first fields have the same identifier. Every
other text is refused for its number of lines or for its first bad pair.

## Main definitions

- `KeyRow.Paired` — two lines make a record
- `KeyRow.Fault` — what is wrong with two lines that do not
- `KeyRow.LastUnder` — the last value under a header
- `KeyRow.RowOf` — a record holds what stands in two lines

## Main statements

- `Record.trimLines_eq_iff`, `KeyRow.identifier_eq_iff` — what is left of texts and identifiers
- `KeyRow.pair_eq_error_iff`, `KeyRow.exists_pair_iff` — when two lines are refused and accepted
- `KeyRow.pairs_eq_error_iff` — pairs are refused for the first one that is
- `KeyRow.records_paired_lines` — which texts are accepted, with which records or errors
-/

namespace Telemetry

/-- What is left of a text without the line feeds around it. -/
theorem Record.trimLines_eq_iff {data kept : Text} :
    Record.trimLines data = kept ↔ Text.StripsTo (fun c => c = '\n') data kept :=
  Text.strip_eq_iff fun _ => beq_iff_eq

namespace KeyRow

-- ════════════════════════════════════════════════════════════════════════
-- Two lines
-- ════════════════════════════════════════════════════════════════════════

/-- An identifier is what is left of a field without the colons around it. -/
theorem identifier_eq_iff {token id : Text} :
    identifier token = id ↔ Text.StripsTo (fun c => c = ':') token id :=
  Text.strip_eq_iff fun _ => beq_iff_eq

/-- Two lines make a record: they have equally many fields and at least one, and their first fields
    have the same identifier. -/
structure Paired (headerLine valueLine : Text) : Prop where
  length_eq : headerLine.fields.length = valueLine.fields.length
  length_pos : 0 < headerLine.fields.length
  identifier_eq : headerLine.fields.head?.map identifier = valueLine.fields.head?.map identifier

/-- What is wrong with two lines, of which the first has a given number. The numbers of fields are
    compared only if the header line has any, and the identifiers only if the numbers are equal. -/
inductive Fault (line : Nat) (headerLine valueLine : Text) : FormatError → Prop
  | emptyLine (blank : headerLine.fields = []) : Fault line headerLine valueLine (.emptyLine line)
  | columnCount (filled : headerLine.fields ≠ [])
      (length_ne : headerLine.fields.length ≠ valueLine.fields.length) :
      Fault line headerLine valueLine
        (.columnCount line headerLine.fields.length valueLine.fields.length)
  | idMismatch {header value : Text}
      (length_eq : headerLine.fields.length = valueLine.fields.length)
      (header_eq : headerLine.fields.head? = some header)
      (value_eq : valueLine.fields.head? = some value)
      (identifier_ne : identifier header ≠ identifier value) :
      Fault line headerLine valueLine (.idMismatch line (identifier header) (identifier value))

/-- A value stands at the last position at which a header occurs. -/
def LastUnder (headers values : List Text) (header value : Text) : Prop :=
  ∃ i, headers[i]? = some header ∧ values[i]? = some value ∧ header ∉ headers.drop (i + 1)

/-- A record holds what stands in a header line and a value line: for each header behind the first
    the last value under it, and the identifier, unless there is a header of that name. -/
structure RowOf (headerLine valueLine : Text) (r : Record) : Prop where
  field : ∀ h ∈ headerLine.fields.tail,
    ∃ v, LastUnder headerLine.fields valueLine.fields h v ∧ r.get? h = some (Value.parse v)
  id : idField ∉ headerLine.fields.tail →
    ∃ h, headerLine.fields.head? = some h ∧ r.get? idField = some (Value.text (identifier h))
  key : ∀ h, r.contains h ↔ h = idField ∨ h ∈ headerLine.fields.tail

variable {line : Nat} {headerLine valueLine : Text}

/-- The last pair of two lists with a given header holds the last value under it. -/
theorem lastUnder_of_zip_eq {headers values : List Text} {h v : Text}
    {before after : List (Text × Text)} (hlength : headers.length = values.length)
    (hzip : headers.zip values = before ++ (h, v) :: after) (hafter : h ∉ after.map Prod.fst) :
    LastUnder headers values h v := by
  have hfst : (headers.zip values).map Prod.fst = headers :=
    List.map_fst_zip (Nat.le_of_eq hlength)
  have hsnd : (headers.zip values).map Prod.snd = values :=
    List.map_snd_zip (Nat.le_of_eq hlength.symm)
  have hheaders : headers = before.map Prod.fst ++ h :: after.map Prod.fst := by
    rw [← hfst, hzip, List.map_append, List.map_cons]
  have hvalues : values = before.map Prod.snd ++ v :: after.map Prod.snd := by
    rw [← hsnd, hzip, List.map_append, List.map_cons]
  refine ⟨before.length, by simp [hheaders], by simp [hvalues], ?_⟩
  have hdrop : headers.drop (before.length + 1) = after.map Prod.fst := by
    rw [hheaders]
    simp [List.drop_append]
  rwa [hdrop]

/-- There is only one last value under a header. -/
theorem LastUnder.unique {headers values : List Text} {header v v' : Text}
    (h : LastUnder headers values header v) (h' : LastUnder headers values header v') : v = v' := by
  obtain ⟨i, hheader, hvalue, hlast⟩ := h
  obtain ⟨j, hheader', hvalue', hlast'⟩ := h'
  -- The later of two positions would stand behind the one that is last.
  have hbehind : ∀ m n : Nat, m < n → headers[n]? = some header →
      header ∈ headers.drop (m + 1) := by
    intro m n hlt hn
    refine List.mem_of_getElem? (i := n - (m + 1)) ?_
    rw [List.getElem?_drop, Nat.add_sub_cancel' hlt, hn]
  have hij : i = j := by
    rcases Nat.lt_trichotomy i j with hlt | heq | hlt
    · exact absurd (hbehind i j hlt hheader') hlast
    · exact heq
    · exact absurd (hbehind j i hlt hheader) hlast'
  subst hij
  exact Option.some.inj (hvalue.symm.trans hvalue')

/-- What stands behind the first header and the first value stays last. -/
theorem LastUnder.cons {headers values : List Text} {header v : Text}
    (h : LastUnder headers values header v) (first first' : Text) :
    LastUnder (first :: headers) (first' :: values) header v := by
  obtain ⟨i, hheader, hvalue, hlast⟩ := h
  exact ⟨i + 1, hheader, hvalue, hlast⟩

/-- Under a header there is a last value, and it is what a map holds for the header that is made of
    other entries and then of the headers with their values. -/
theorem exists_lastUnder {headers values : List Text} {header : Text}
    (hlength : headers.length = values.length) (hmem : header ∈ headers)
    (entries : List (Text × Value)) :
    ∃ v, LastUnder headers values header v ∧
      (SortedMap.ofList (entries ++ headers.zip (values.map Value.parse))).get? header =
        some (Value.parse v) := by
  have hcontains : (SortedMap.ofList (headers.zip values)).contains header := by
    rw [SortedMap.contains_ofList_iff, List.map_fst_zip (Nat.le_of_eq hlength)]
    exact hmem
  obtain ⟨v, hv⟩ := Option.isSome_iff_exists.mp hcontains
  obtain ⟨before, after, hpairs, hafter⟩ := SortedMap.get?_ofList_eq_some_iff_append.mp hv
  refine ⟨v, lastUnder_of_zip_eq hlength hpairs hafter, ?_⟩
  -- The last pair with the header in the two lists themselves is the last one in the map.
  refine SortedMap.get?_ofList_eq_some_iff_append.mpr ⟨entries ++
    before.map (Prod.map id Value.parse), after.map (Prod.map id Value.parse), ?_, ?_⟩
  · rw [List.zip_map_right, hpairs, List.map_append, List.map_cons, List.append_assoc]
    rfl
  · simpa using hafter

/-- The record that two lines make holds what stands in them. -/
theorem rowOf_ofList {header value : Text} {headers values : List Text}
    (hheader : headerLine.fields = header :: headers) (hvalue : valueLine.fields = value :: values)
    (hlength : headers.length = values.length) :
    RowOf headerLine valueLine (SortedMap.ofList
      ((idField, .text (identifier header)) :: headers.zip (values.map Value.parse))) := by
  have hkeys : (headers.zip (values.map Value.parse)).map Prod.fst = headers := by
    rw [List.map_fst_zip]
    simp [hlength]
  refine ⟨fun h hh => ?_, fun hid => ⟨header, by rw [hheader]; rfl, ?_⟩, fun h => ?_⟩
  · rw [hheader, List.tail_cons] at hh
    obtain ⟨v, hlast, hget⟩ := exists_lastUnder hlength hh [(idField, .text (identifier header))]
    exact ⟨v, by rw [hheader, hvalue]; exact hlast.cons header value, hget⟩
  · rw [hheader, List.tail_cons] at hid
    exact SortedMap.get?_ofList_eq_some_iff_append.mpr ⟨[], _, rfl, by rwa [hkeys]⟩
  · rw [SortedMap.contains_ofList_iff, List.map_cons, hkeys, List.mem_cons, hheader, List.tail_cons]

/-- Two lines of a pair have a first field each, with one identifier, and equally many others. -/
theorem Paired.exists_fields (h : Paired headerLine valueLine) :
    ∃ header headers value values, headerLine.fields = header :: headers ∧
      valueLine.fields = value :: values ∧ headers.length = values.length ∧
      identifier header = identifier value := by
  obtain ⟨hlength, hpos, hid⟩ := h
  cases hheader : headerLine.fields with
  | nil => simp [hheader] at hpos
  | cons header headers =>
    cases hvalue : valueLine.fields with
    | nil => simp [hheader, hvalue] at hlength
    | cons value values =>
      have hlength' : headers.length = values.length := by simpa [hheader, hvalue] using hlength
      have hid' : identifier header = identifier value := by simpa [hheader, hvalue] using hid
      exact ⟨header, headers, value, values, rfl, rfl, hlength', hid'⟩

theorem pair_of_fields (line : Nat) {header value : Text} {headers values : List Text}
    (hheader : headerLine.fields = header :: headers) (hvalue : valueLine.fields = value :: values)
    (hlength : headers.length = values.length) (hid : identifier header = identifier value) :
    pair line headerLine valueLine = .ok (SortedMap.ofList
      ((idField, .text (identifier header)) :: headers.zip (values.map Value.parse))) := by
  simp [pair, hheader, hvalue, hlength, hid]

/-- Two lines of a pair make a record. -/
theorem pair_of_paired (line : Nat) (h : Paired headerLine valueLine) :
    ∃ r, pair line headerLine valueLine = .ok r ∧ RowOf headerLine valueLine r := by
  obtain ⟨header, headers, value, values, hheader, hvalue, hlength, hid⟩ := h.exists_fields
  exact ⟨_, pair_of_fields line hheader hvalue hlength hid, rowOf_ofList hheader hvalue hlength⟩

/-- Two lines are refused for what is wrong with them. -/
theorem pair_of_fault {e : FormatError} (h : Fault line headerLine valueLine e) :
    pair line headerLine valueLine = .error e := by
  cases h with
  | emptyLine blank => simp [pair, blank]
  | columnCount filled length_ne => simp [pair, filled, length_ne]
  | idMismatch length_eq header_eq value_eq identifier_ne =>
    obtain ⟨headers, hheader⟩ := List.head?_eq_some_iff.mp header_eq
    obtain ⟨values, hvalue⟩ := List.head?_eq_some_iff.mp value_eq
    have hlength : headers.length = values.length := by simpa [hheader, hvalue] using length_eq
    simp [pair, hheader, hvalue, hlength, identifier_ne]

/-- If nothing is wrong with two lines, they are a pair. -/
theorem paired_or_fault (line : Nat) (headerLine valueLine : Text) :
    Paired headerLine valueLine ∨ ∃ e, Fault line headerLine valueLine e := by
  by_cases hlength : headerLine.fields.length = valueLine.fields.length
  · cases hheader : headerLine.fields with
    | nil => exact .inr ⟨_, .emptyLine hheader⟩
    | cons header headers =>
      cases hvalue : valueLine.fields with
      | nil => simp [hheader, hvalue] at hlength
      | cons value values =>
        by_cases hid : identifier header = identifier value
        · exact .inl ⟨hlength, by simp [hheader], by simp [hheader, hvalue, hid]⟩
        · exact .inr ⟨_, .idMismatch hlength (by simp [hheader]) (by simp [hvalue]) hid⟩
  · by_cases hblank : headerLine.fields = []
    · exact .inr ⟨_, .emptyLine hblank⟩
    · exact .inr ⟨_, .columnCount hblank hlength⟩

/-- Two lines are refused exactly for what is wrong with them. -/
theorem pair_eq_error_iff {e : FormatError} :
    pair line headerLine valueLine = .error e ↔ Fault line headerLine valueLine e := by
  refine ⟨fun h => ?_, pair_of_fault⟩
  rcases paired_or_fault line headerLine valueLine with hpaired | ⟨e', hfault⟩
  · obtain ⟨r, hr, -⟩ := pair_of_paired line hpaired
    cases h.symm.trans hr
  · obtain rfl := Except.error.inj (h.symm.trans (pair_of_fault hfault))
    exact hfault

/-- Two lines are accepted exactly if they are a pair. -/
theorem exists_pair_iff :
    (∃ r, pair line headerLine valueLine = .ok r) ↔ Paired headerLine valueLine := by
  constructor
  · rintro ⟨r, hr⟩
    refine (paired_or_fault line headerLine valueLine).resolve_right ?_
    rintro ⟨e, hfault⟩
    cases hr.symm.trans (pair_of_fault hfault)
  · intro h
    obtain ⟨r, hr, -⟩ := pair_of_paired line h
    exact ⟨r, hr⟩

theorem rowOf_of_pair {r : Record} (h : pair line headerLine valueLine = .ok r) :
    RowOf headerLine valueLine r := by
  obtain ⟨r', hr', hrow⟩ := pair_of_paired line (exists_pair_iff.mp ⟨r, h⟩)
  obtain rfl := Except.ok.inj (h.symm.trans hr')
  exact hrow

-- ════════════════════════════════════════════════════════════════════════
-- Pairs of lines
-- ════════════════════════════════════════════════════════════════════════

/-- The lines of a text without the line feeds at its ends. -/
def linesOf (data : Text) : List Text :=
  (Record.trimLines data).lines

/-- Two lines are a header line and the value line behind it, the pair of a given number. -/
structure PairAt (lines : List Text) (k : Nat) (headerLine valueLine : Text) : Prop where
  header : lines[2 * k]? = some headerLine
  value : lines[2 * k + 1]? = some valueLine

variable {lines : List Text} {first second : Text} {k : Nat}

theorem pairAt_zero_iff :
    PairAt (first :: second :: lines) 0 headerLine valueLine ↔
      first = headerLine ∧ second = valueLine :=
  ⟨fun h => ⟨Option.some.inj h.header, Option.some.inj h.value⟩,
    fun h => ⟨congrArg some h.1, congrArg some h.2⟩⟩

theorem pairAt_succ_iff :
    PairAt (first :: second :: lines) (k + 1) headerLine valueLine ↔
      PairAt lines k headerLine valueLine :=
  ⟨fun h => ⟨h.header, h.value⟩, fun h => ⟨h.header, h.value⟩⟩

theorem length_lt_two (h : ∀ a b rest, lines = a :: b :: rest → False) : lines.length < 2 := by
  match lines with
  | [] => exact Nat.zero_lt_two
  | [_] => exact Nat.one_lt_two
  | a :: b :: rest => exact (h a b rest rfl).elim

/-- Pairs of lines are refused for what is wrong with the first two lines that are no pair. -/
theorem pairs_eq_error_iff {e : FormatError} :
    pairs line lines = .error e ↔
      ∃ k headerLine valueLine, PairAt lines k headerLine valueLine ∧
        Fault (line + 2 * k) headerLine valueLine e ∧
        ∀ j, j < k → ∀ h v, PairAt lines j h v → Paired h v := by
  fun_induction pairs line lines with
  | case1 line header value lines e' hpair =>
    constructor
    · rintro ⟨⟩
      exact ⟨0, header, value, pairAt_zero_iff.mpr ⟨rfl, rfl⟩, pair_eq_error_iff.mp hpair, nofun⟩
    · rintro ⟨k, h, v, hat, hfault, hbefore⟩
      cases k with
      | zero =>
        obtain ⟨rfl, rfl⟩ := pairAt_zero_iff.mp hat
        obtain rfl := Except.error.inj (hpair.symm.trans (pair_of_fault hfault))
        rfl
      | succ k =>
        have hpaired := hbefore 0 k.succ_pos header value (pairAt_zero_iff.mpr ⟨rfl, rfl⟩)
        obtain ⟨r, hr, -⟩ := pair_of_paired line hpaired
        cases hpair.symm.trans hr
  | case2 line header value lines r hpair ih =>
    have hmap : (pairs (line + 2) lines).map (r :: ·) = .error e ↔
        pairs (line + 2) lines = .error e := by
      cases pairs (line + 2) lines <;> simp [Except.map]
    have hline : ∀ k, line + 2 + 2 * k = line + 2 * (k + 1) := fun k => by omega
    have hpaired : Paired header value := exists_pair_iff.mp ⟨r, hpair⟩
    rw [hmap, ih]
    constructor
    · rintro ⟨k, h, v, hat, hfault, hbefore⟩
      refine ⟨k + 1, h, v, pairAt_succ_iff.mpr hat, hline k ▸ hfault, fun j hj h' v' hat' => ?_⟩
      cases j with
      | zero =>
        obtain ⟨rfl, rfl⟩ := pairAt_zero_iff.mp hat'
        exact hpaired
      | succ j => exact hbefore j (by omega) h' v' (pairAt_succ_iff.mp hat')
    · rintro ⟨k, h, v, hat, hfault, hbefore⟩
      cases k with
      | zero =>
        obtain ⟨rfl, rfl⟩ := pairAt_zero_iff.mp hat
        cases hpair.symm.trans (pair_of_fault hfault)
      | succ k =>
        refine ⟨k, h, v, pairAt_succ_iff.mp hat, hline k ▸ hfault, fun j hj h' v' hat' => ?_⟩
        exact hbefore (j + 1) (by omega) h' v' (pairAt_succ_iff.mpr hat')
  | case3 lines line hshort =>
    have hnone : ∀ k h v, ¬ PairAt lines k h v := by
      intro k h v hat
      have hlength := length_lt_two hshort
      have hvalue : 2 * k + 1 < lines.length := (List.getElem?_eq_some_iff.mp hat.value).1
      omega
    constructor
    · rintro ⟨⟩
    · rintro ⟨k, h, v, hat, -⟩
      exact absurd hat (hnone k h v)

/-- Pairs of lines that are accepted give one record each, in order. -/
theorem pair_of_pairs {rs : List Record} (h : pairs line lines = .ok rs) :
    rs.length = lines.length / 2 ∧
      ∀ k r, rs[k]? = some r → ∃ headerLine valueLine, PairAt lines k headerLine valueLine ∧
        pair (line + 2 * k) headerLine valueLine = .ok r := by
  fun_induction pairs line lines generalizing rs with
  | case1 => cases h
  | case2 line header value lines r hpair ih =>
    obtain ⟨rest, hrest, rfl⟩ := exists_of_map_eq_ok h
    obtain ⟨hlength, hrows⟩ := ih hrest
    refine ⟨by simp only [List.length_cons, hlength]; omega, fun k r' hr' => ?_⟩
    cases k with
    | zero =>
      obtain rfl : r = r' := Option.some.inj hr'
      exact ⟨header, value, pairAt_zero_iff.mpr ⟨rfl, rfl⟩, hpair⟩
    | succ k =>
      obtain ⟨h', v', hat, hpair'⟩ := hrows k r' hr'
      have hline : line + 2 + 2 * k = line + 2 * (k + 1) := by omega
      exact ⟨h', v', pairAt_succ_iff.mpr hat, hline ▸ hpair'⟩
  | case3 lines line hshort =>
    obtain rfl := Except.ok.inj h
    have hlength := length_lt_two hshort
    exact ⟨by simp only [List.length_nil]; omega, nofun⟩

/-- Every pair of lines that are accepted has its record. -/
theorem exists_record_of_pairAt {rs : List Record} (h : pairs line lines = .ok rs)
    (hat : PairAt lines k headerLine valueLine) :
    ∃ r, rs[k]? = some r ∧ pair (line + 2 * k) headerLine valueLine = .ok r := by
  obtain ⟨hlength, hrows⟩ := pair_of_pairs h
  have hvalue : 2 * k + 1 < lines.length := (List.getElem?_eq_some_iff.mp hat.value).1
  have hk : k < rs.length := by omega
  obtain ⟨h', v', hat', hpair⟩ := hrows k rs[k] (List.getElem?_eq_getElem hk)
  obtain rfl : h' = headerLine := Option.some.inj (hat'.header.symm.trans hat.header)
  obtain rfl : v' = valueLine := Option.some.inj (hat'.value.symm.trans hat.value)
  exact ⟨rs[k], List.getElem?_eq_getElem hk, hpair⟩

/-- Lines are accepted exactly if every two of them are a pair. -/
theorem exists_pairs_iff :
    (∃ rs, pairs line lines = .ok rs) ↔
      ∀ k headerLine valueLine, PairAt lines k headerLine valueLine →
        Paired headerLine valueLine := by
  constructor
  · rintro ⟨rs, hrs⟩ k h v hat
    obtain ⟨r, -, hpair⟩ := exists_record_of_pairAt hrs hat
    exact exists_pair_iff.mp ⟨r, hpair⟩
  · intro hpaired
    cases hresult : pairs line lines with
    | ok rs => exact ⟨rs, rfl⟩
    | error e =>
      obtain ⟨k, h, v, hat, hfault, -⟩ := pairs_eq_error_iff.mp hresult
      obtain ⟨r, hr, -⟩ := pair_of_paired (line + 2 * k) (hpaired k h v hat)
      cases (pair_of_fault hfault).symm.trans hr

-- ════════════════════════════════════════════════════════════════════════
-- Texts
-- ════════════════════════════════════════════════════════════════════════

/-- A text is accepted exactly if it has an even number of lines and every two of them are a pair,
    with one record for each pair, in order. Any other text is refused, for an odd number of lines
    or else for what is wrong with the first two lines that are no pair. -/
theorem records_paired_lines (data : Text) :
    ((∃ rs, records data = .ok rs) ↔ (linesOf data).length % 2 = 0 ∧
      ∀ k headerLine valueLine, PairAt (linesOf data) k headerLine valueLine →
        Paired headerLine valueLine) ∧
    (∀ rs, records data = .ok rs → rs.length = (linesOf data).length / 2 ∧
      ∀ k r, rs[k]? = some r → ∃ headerLine valueLine,
        PairAt (linesOf data) k headerLine valueLine ∧ RowOf headerLine valueLine r) ∧
    ∀ e, records data = .error e ↔
      ((linesOf data).length % 2 = 1 ∧ e = .oddLineCount) ∨
      ((linesOf data).length % 2 = 0 ∧ ∃ k headerLine valueLine,
        PairAt (linesOf data) k headerLine valueLine ∧ Fault (2 * k) headerLine valueLine e ∧
        ∀ j, j < k → ∀ h v, PairAt (linesOf data) j h v → Paired h v) := by
  have hrecords : records data = if (linesOf data).length % 2 ≠ 0 then .error .oddLineCount
      else pairs 0 (linesOf data) := rfl
  by_cases hodd : (linesOf data).length % 2 = 1
  · have heven : ¬ (linesOf data).length % 2 = 0 := by omega
    rw [if_pos heven] at hrecords
    simp [hrecords, hodd, eq_comm]
  · have heven : (linesOf data).length % 2 = 0 := by omega
    rw [if_neg (by omega)] at hrecords
    rw [hrecords]
    refine ⟨?_, fun rs hrs => ?_, fun e => ?_⟩
    · rw [exists_pairs_iff]
      exact (and_iff_right heven).symm
    · obtain ⟨hlength, hpairs⟩ := pair_of_pairs hrs
      refine ⟨hlength, fun k r hr => ?_⟩
      obtain ⟨h, v, hat, hpair⟩ := hpairs k r hr
      exact ⟨h, v, hat, rowOf_of_pair hpair⟩
    · rw [pairs_eq_error_iff]
      simp [heven]

/-- A header that occurs twice, between line feeds, and behind a pair like it two identifiers that
    differ in more than their colons. -/
theorem records_paired_lines_repeated_header :
    let good := "\na: x x\n:a p q\n".toList
    let bad := "a: x x\n:a p q\nb y\n:c: r".toList
    (∃ r, records good = .ok [r] ∧ RowOf "a: x x".toList ":a p q".toList r) ∧
      LastUnder (Text.fields "a: x x".toList) (Text.fields ":a p q".toList) ['x'] ['q'] ∧
      records bad = .error (.idMismatch 2 ['b'] ['c']) := by
  intro good bad
  have hfirst : Paired "a: x x".toList ":a p q".toList := ⟨by decide, by decide, by decide⟩
  refine ⟨?_, ⟨2, by decide, by decide, by decide⟩, ?_⟩
  · have hlines : linesOf good = ["a: x x".toList, ":a p q".toList] := by decide
    have hpaired : ∀ k h v, PairAt (linesOf good) k h v → Paired h v := by
      intro k h v hat
      have hvalue : 2 * k + 1 < 2 := (List.getElem?_eq_some_iff.mp (hlines ▸ hat.value)).1
      obtain rfl : k = 0 := by omega
      obtain ⟨rfl, rfl⟩ := pairAt_zero_iff.mp (hlines ▸ hat)
      exact hfirst
    obtain ⟨rs, hrs⟩ := (records_paired_lines good).1.mpr ⟨by decide, hpaired⟩
    obtain ⟨hlength, hrows⟩ := (records_paired_lines good).2.1 rs hrs
    obtain ⟨r, rfl⟩ := List.length_eq_one_iff.mp (hlength.trans (by decide))
    obtain ⟨h, v, hat, hrow⟩ := hrows 0 r rfl
    obtain ⟨rfl, rfl⟩ := pairAt_zero_iff.mp (hlines ▸ hat)
    exact ⟨r, hrs, hrow⟩
  · have hsecond : Fault 2 "b y".toList ":c: r".toList (.idMismatch 2 ['b'] ['c']) :=
      @Fault.idMismatch 2 _ _ ['b'] ":c:".toList (by decide) (by decide) (by decide) (by decide)
    refine ((records_paired_lines bad).2.2 _).mpr (.inr ⟨by decide, 1, "b y".toList,
      ":c: r".toList, ⟨by decide, by decide⟩, hsecond, fun j hj h v hat => ?_⟩)
    have hlines : linesOf bad =
      ["a: x x".toList, ":a p q".toList, "b y".toList, ":c: r".toList] := by decide
    obtain rfl : j = 0 := by omega
    obtain ⟨rfl, rfl⟩ := pairAt_zero_iff.mp (hlines ▸ hat)
    exact hfirst

end KeyRow

end Telemetry
