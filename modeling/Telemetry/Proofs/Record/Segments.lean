import Telemetry.Proofs.Record.Columns
import Telemetry.Record.Matching

/-!
# Matched segments

Whether a text has records by a pattern depends on the pattern alone: with a group for every column
every text has them, one for each segment that matches. Otherwise the first segment that matches is
the error, under its number among all segments, and a text without such a segment has no records.

## Main definitions

- `Matching.Reports` — every match has a given number of groups
- `Matching.FirstMatch` — the first of some segments that matches
- `Matching.IsRow` — a record holds what was matched in a segment

## Main statements

- `Matching.segments_of_fits` — with a group for every column every segment that matches is a record
- `Matching.segments_of_firstMatch` — otherwise the first segment that matches is the error
- `Matching.segments_matched` — both, for any matcher that reports its groups
- `Matching.records_matched` — and so for the records of a text by a pattern
-/

namespace Telemetry.Matching

variable {columns : List Text} {matcher : Text → Option (List (Option Text))} {groupCount : Nat}
  {items : List Text} {k : Nat}

/-- Every match has the same number of groups. -/
def Reports (matcher : Text → Option (List (Option Text))) (groupCount : Nat) : Prop :=
  ∀ segment groups, matcher segment = some groups → groups.length = groupCount

/-- The segment of a given number matches, and none before it does. -/
structure FirstMatch (matcher : Text → Option (List (Option Text))) (items : List Text) (k : Nat) :
    Prop where
  matched : ∃ segment, items[k]? = some segment ∧ (matcher segment).isSome
  unmatched : ∀ j, j < k → ∀ segment, items[j]? = some segment → matcher segment = none

/-- A record holds what the groups matched in a segment. A group that took no part holds the empty
    token. -/
def IsRow (columns : List Text) (matcher : Text → Option (List (Option Text))) (segment : Text)
    (r : Record) : Prop :=
  ∃ groups, matcher segment = some groups ∧
    Record.HasColumns columns (groups.map fun group => group.getD []) r

-- ════════════════════════════════════════════════════════════════════════
-- The first match
-- ════════════════════════════════════════════════════════════════════════

/-- If a segment matches, one of them is the first. -/
theorem exists_firstMatch (h : ∃ segment ∈ items, (matcher segment).isSome) :
    ∃ k, FirstMatch matcher items k := by
  induction items with
  | nil => simp at h
  | cons segment items ih =>
    cases hmatch : matcher segment with
    | some groups => exact ⟨0, ⟨segment, rfl, by rw [hmatch]; rfl⟩, nofun⟩
    | none =>
      obtain ⟨segment', hmem, hsome⟩ := h
      have hrest : segment' ∈ items := by
        refine (List.mem_cons.mp hmem).resolve_left ?_
        rintro rfl
        simp [hmatch] at hsome
      obtain ⟨k, hmatched, hunmatched⟩ := ih ⟨segment', hrest, hsome⟩
      refine ⟨k + 1, hmatched, fun j hj s hs => ?_⟩
      cases j with
      | zero => exact Option.some.inj hs ▸ hmatch
      | succ j => exact hunmatched j (Nat.lt_of_succ_lt_succ hj) s hs

theorem FirstMatch.tail {segment : Text} (h : FirstMatch matcher (segment :: items) (k + 1)) :
    matcher segment = none ∧ FirstMatch matcher items k :=
  ⟨h.unmatched 0 k.succ_pos segment rfl, h.matched,
    fun j hj => h.unmatched (j + 1) (Nat.succ_lt_succ hj)⟩

-- ════════════════════════════════════════════════════════════════════════
-- Segments
-- ════════════════════════════════════════════════════════════════════════

theorem segments_of_unmatched (number : Nat) (h : ∀ segment ∈ items, matcher segment = none) :
    segments columns matcher number items = .ok [] := by
  induction items generalizing number with
  | nil => rfl
  | cons segment items ih =>
    obtain ⟨hsegment, hitems⟩ := List.forall_mem_cons.mp h
    rw [segments, hsegment]
    exact ih (number + 1) hitems

/-- With another number of groups than there are columns the first segment that matches is the
    error. -/
theorem segments_of_firstMatch (hreports : Reports matcher groupCount)
    (hne : groupCount ≠ columns.length) (number : Nat) (h : FirstMatch matcher items k) :
    segments columns matcher number items =
      .error (.groupCount (number + k) columns.length groupCount) := by
  induction items generalizing number k with
  | nil =>
    obtain ⟨segment, hsegment, -⟩ := h.matched
    cases hsegment
  | cons segment items ih =>
    cases k with
    | zero =>
      obtain ⟨segment', hsegment, hsome⟩ := h.matched
      obtain rfl := Option.some.inj hsegment
      obtain ⟨groups, hgroups⟩ := Option.isSome_iff_exists.mp hsome
      have hlength : groups.length = groupCount := hreports _ _ hgroups
      rw [segments, hgroups]
      simp only [hlength, if_neg hne, Nat.add_zero]
    | succ k =>
      obtain ⟨hsegment, hrest⟩ := h.tail
      rw [segments, hsegment, Nat.add_comm k 1, ← Nat.add_assoc]
      exact ih (number + 1) hrest

/-- With a group for every column each segment that matches gives one record, in order. -/
theorem segments_of_fits (hreports : Reports matcher groupCount)
    (hfits : groupCount = columns.length) (number : Nat) (items : List Text) :
    ∃ rs, segments columns matcher number items = .ok rs ∧
      List.Forall₂ (IsRow columns matcher)
        (items.filter fun segment => (matcher segment).isSome) rs := by
  induction items generalizing number with
  | nil => exact ⟨[], rfl, .nil⟩
  | cons segment items ih =>
    obtain ⟨rs, hrs, hrows⟩ := ih (number + 1)
    cases hmatch : matcher segment with
    | none =>
      refine ⟨rs, by rw [segments, hmatch]; exact hrs, ?_⟩
      rwa [List.filter_cons_of_neg (by simp [hmatch])]
    | some groups =>
      have hlength : groups.length = columns.length := (hreports _ _ hmatch).trans hfits
      refine ⟨row columns groups :: rs, ?_, ?_⟩
      · rw [segments, hmatch]
        simp only [hlength, if_true, hrs]
        rfl
      · rw [List.filter_cons_of_pos (by simp [hmatch])]
        refine .cons ⟨groups, hmatch, ?_⟩ hrows
        exact Record.hasColumns_ofColumns (by rw [List.length_map, hlength])

/-- The records of segments, for any way of matching that reports one number of groups: with a group
    for every column each segment that matches is a record; otherwise the first one that matches is
    the error, and without such a segment there are no records. -/
theorem segments_matched (hreports : Reports matcher groupCount) (columns items : List Text) :
    (groupCount = columns.length →
      ∃ rs, segments columns matcher 0 items = .ok rs ∧
        List.Forall₂ (IsRow columns matcher)
          (items.filter fun segment => (matcher segment).isSome) rs) ∧
    (groupCount ≠ columns.length →
      ((∀ segment ∈ items, matcher segment = none) → segments columns matcher 0 items = .ok []) ∧
      ((∃ segment ∈ items, (matcher segment).isSome) →
        ∃ k, FirstMatch matcher items k ∧ segments columns matcher 0 items =
          .error (.groupCount k columns.length groupCount))) := by
  refine ⟨fun hfits => segments_of_fits hreports hfits 0 items,
    fun hne => ⟨segments_of_unmatched 0, fun hmatch => ?_⟩⟩
  obtain ⟨k, hk⟩ := exists_firstMatch hmatch
  have herror := segments_of_firstMatch hreports hne 0 hk
  rw [Nat.zero_add] at herror
  exact ⟨k, hk, herror⟩

-- ════════════════════════════════════════════════════════════════════════
-- Texts
-- ════════════════════════════════════════════════════════════════════════

theorem reports_groups? (pattern : Regex) : Reports pattern.groups? pattern.groupCount :=
  fun _ _ => Regex.length_of_groups?

/-- What a compiled pattern answers is computed from its text. -/
theorem eq_of_map_compile? {α : Type} {source : Text} {pattern : Regex} {x : α}
    (h : Regex.compile? source = some pattern) (f : Regex → α)
    (hx : (Regex.compile? source).map f = some x) : f pattern = x := by
  rw [h] at hx
  exact Option.some.inj hx

/-- With a group for every column every text has records by a pattern: one for each segment that
    matches, in order, with just the names of the columns. With another number of groups a text in
    which no segment matches has no records, and for any other the first segment that matches is the
    error, numbered among all segments. -/
theorem records_matched (separator : Text) (columns : List Text) (pattern : Regex) (data : Text) :
    (pattern.groupCount = columns.length →
      ∃ rs, records separator columns pattern data = .ok rs ∧
        List.Forall₂ (IsRow columns pattern.groups?)
          ((Record.split separator data).filter fun segment => (pattern.groups? segment).isSome)
          rs) ∧
    (pattern.groupCount ≠ columns.length →
      ((∀ segment ∈ Record.split separator data, pattern.groups? segment = none) →
        records separator columns pattern data = .ok []) ∧
      ((∃ segment ∈ Record.split separator data, (pattern.groups? segment).isSome) →
        ∃ k, FirstMatch pattern.groups? (Record.split separator data) k ∧
          records separator columns pattern data =
            .error (.groupCount k columns.length pattern.groupCount))) :=
  segments_matched (reports_groups? pattern) columns (Record.split separator data)

/-- A group that takes no part in a match, and a column too few for the second of two segments. -/
theorem records_matched_optional_group :
    ∃ pattern, Regex.compile? "(a)(b)?".toList = some pattern ∧
      (∃ r, records ['\n'] [['x'], ['y']] pattern "-\na".toList = .ok [r] ∧
        r.get? ['y'] = some (Value.parse [])) ∧
      records ['\n'] [['x']] pattern "-\na".toList = .error (.groupCount 1 1 2) := by
  have hcompiled : (Regex.compile? "(a)(b)?".toList).isSome := by decide +kernel
  obtain ⟨pattern, hpattern⟩ := Option.isSome_iff_exists.mp hcompiled
  have hcount : pattern.groupCount = 2 :=
    eq_of_map_compile? hpattern Regex.groupCount (by decide +kernel)
  have hfirst : pattern.groups? ['-'] = none :=
    eq_of_map_compile? hpattern (Regex.groups? · ['-']) (by decide +kernel)
  have hsecond : pattern.groups? ['a'] = some [some ['a'], none] :=
    eq_of_map_compile? hpattern (Regex.groups? · ['a']) (by decide +kernel)
  have hsplit : Record.split ['\n'] "-\na".toList = [['-'], ['a']] := by decide +kernel
  refine ⟨pattern, hpattern, ?_, ?_⟩
  · have hmatches := records_matched ['\n'] [['x'], ['y']] pattern "-\na".toList
    obtain ⟨rs, hrs, hrows⟩ := hmatches.1 hcount
    have hmatched : [['-'], ['a']].filter (fun segment => (pattern.groups? segment).isSome) =
        [['a']] := by
      simp [hfirst, hsecond]
    rw [hsplit, hmatched] at hrows
    obtain _ | ⟨⟨groups, hgroups, hcolumns⟩, ⟨⟩⟩ := hrows
    rename_i r
    obtain rfl := Option.some.inj (hgroups.symm.trans hsecond)
    obtain ⟨token, htoken, hget⟩ := hcolumns.value ['y'] (by simp)
    have hempty : token = [] := htoken.unique ⟨1, rfl, rfl, List.not_mem_nil⟩
    exact ⟨r, hrs, hempty ▸ hget⟩
  · have hne : pattern.groupCount ≠ [['x']].length := by rw [hcount]; decide
    obtain ⟨k, hk, herror⟩ := ((records_matched ['\n'] [['x']] pattern "-\na".toList).2 hne).2
      ⟨['a'], by rw [hsplit]; simp, by rw [hsecond]; rfl⟩
    rw [hsplit] at hk
    obtain ⟨⟨segment, hsegment, hsome⟩, -⟩ := hk
    match k, hsegment with
    | 0, rfl => simp [hfirst] at hsome
    | 1, rfl => rw [herror, hcount]; rfl

end Telemetry.Matching
