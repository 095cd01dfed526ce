import Telemetry.Proofs.Record.Identifiers
import Telemetry.Proofs.Record.Segments
import Telemetry.Proofs.Text.Splitting
import Telemetry.Proofs.Text.Stripping

/-!
# Texts with more lines behind them

Lines that are added behind a text add their records behind those of the text, in each format that
reads line by line. Line feeds at both ends of a text are taken away before its lines are counted,
so the joint of two texts may hold empty lines that neither has on its own: they are no rows of a
table, and paired lines are joined only where there are none.

## Main statements

- `Table.records_append` — rows behind rows
- `Matching.segments_append_of_ok`, `Matching.segments_append_of_error` — segments behind segments
- `KeyRow.records_append` — pairs of lines behind pairs of lines
- `Record.records_added_lines` — the records of a text with more lines behind it
-/

namespace Telemetry

open KeyRow (linesOf)

variable {a b : Text}

-- ════════════════════════════════════════════════════════════════════════
-- Line feeds at the ends of a text
-- ════════════════════════════════════════════════════════════════════════

namespace Record

/-- A text without the line feeds in front of it. -/
def trimStart (data : Text) : Text :=
  data.dropWhile (· == '\n')

/-- Without the line feeds in front a text has the same lines but for empty ones in front. -/
theorem exists_lines_trimStart (t : Text) :
    ∃ n, t.lines = List.replicate n [] ++ (trimStart t).lines := by
  induction t with
  | nil => exact ⟨0, rfl⟩
  | cons c t ih =>
    by_cases hc : c = '\n'
    · obtain ⟨n, hn⟩ := ih
      subst hc
      refine ⟨n + 1, ?_⟩
      have hstart : trimStart ('\n' :: t) = trimStart t := rfl
      rw [hstart, List.replicate_succ, List.cons_append, ← hn]
      exact Text.lines_append [] t
    · have hstart : trimStart (c :: t) = c :: t :=
        List.dropWhile_cons_of_neg (by simpa using hc)
      exact ⟨0, by rw [hstart]; rfl⟩

/-- Without the line feeds at its end a text has the same lines but for empty ones at the end. -/
theorem exists_lines_stripEnd (t : Text) :
    ∃ n, t.lines = (Text.stripEnd (· == '\n') t).lines ++ List.replicate n [] := by
  induction t using List.reverseRecOn with
  | nil => exact ⟨0, rfl⟩
  | append_singleton t c ih =>
    by_cases hc : c = '\n'
    · obtain ⟨n, hn⟩ := ih
      subst hc
      refine ⟨n + 1, ?_⟩
      rw [Text.stripEnd_eq_rdropWhile, List.rdropWhile_concat_pos _ _ _ (by rfl),
        ← Text.stripEnd_eq_rdropWhile, List.replicate_succ', ← List.append_assoc, ← hn]
      exact Text.lines_append t []
    · refine ⟨0, ?_⟩
      rw [Text.stripEnd_eq_rdropWhile, List.rdropWhile_concat_neg _ _ _ (by simpa using hc)]
      simp

theorem exists_lines_trimStart_eq (data : Text) :
    ∃ n, (trimStart data).lines = linesOf data ++ List.replicate n [] :=
  exists_lines_stripEnd (trimStart data)

/-- Without a line feed in front there is none to trim there. -/
theorem trimStart_of_head? {t : Text} (h : t.head? ≠ some '\n') : trimStart t = t :=
  Text.dropWhile_eq_self_iff.mpr fun _ hc => beq_eq_false_iff_ne.mpr fun heq => h (heq ▸ hc)

/-- Without a line feed at the end there is none to strip there. -/
theorem stripEnd_of_getLast? {t : Text} (h : t.getLast? ≠ some '\n') :
    Text.stripEnd (· == '\n') t = t :=
  Text.stripEnd_eq_self_iff.mpr fun _ hc => beq_eq_false_iff_ne.mpr fun heq => h (heq ▸ hc)

theorem trimStart_ne_nil_iff {t : Text} : trimStart t ≠ [] ↔ ∃ c ∈ t, c ≠ '\n' := by
  rw [trimStart, ne_eq, List.dropWhile_eq_nil_iff]
  simp

theorem trimStart_append {t : Text} (h : trimStart t ≠ []) (rest : Text) :
    trimStart (t ++ rest) = trimStart t ++ rest := by
  have hempty : ¬ (t.dropWhile (· == '\n')).isEmpty := fun hnil => h (List.isEmpty_iff.mp hnil)
  rw [trimStart, List.dropWhile_append, if_neg hempty, ← trimStart]

end Record

-- ════════════════════════════════════════════════════════════════════════
-- Tables
-- ════════════════════════════════════════════════════════════════════════

namespace Table

variable {columns : List Text} {skip : Nat}

/-- Empty lines are no rows of a table with columns. -/
theorem filterMap_row?_replicate (hcolumns : columns ≠ []) (n : Nat) :
    (List.replicate n []).filterMap (row? columns) = [] := by
  rw [List.filterMap_eq_nil_iff]
  intro line hline
  obtain rfl := List.eq_of_mem_replicate hline
  have hlength : ¬ (Text.fields []).length = columns.length := fun heq =>
    hcolumns (List.length_eq_zero_iff.mp heq.symm)
  exact if_neg hlength

/-- The line feeds at the end of a text play no part in its table. -/
theorem records_eq_filterMap (hcolumns : columns ≠ []) (skip : Nat) (data : Text) :
    records columns skip data =
      ((Record.trimStart data).lines.drop skip).filterMap (row? columns) := by
  obtain ⟨n, hlines⟩ := Record.exists_lines_trimStart_eq data
  rw [records_of_ne_nil hcolumns, hlines, List.drop_append, List.filterMap_append,
    List.drop_replicate, filterMap_row?_replicate hcolumns, List.append_nil]

/-- If no lines are skipped, line feeds in front of a text play no part either. -/
theorem records_zero_eq_filterMap (hcolumns : columns ≠ []) (data : Text) :
    records columns 0 data = data.lines.filterMap (row? columns) := by
  obtain ⟨n, hlines⟩ := Record.exists_lines_trimStart data
  rw [records_eq_filterMap hcolumns, List.drop_zero, hlines, List.filterMap_append,
    filterMap_row?_replicate hcolumns, List.nil_append]

/-- The rows of lines that are added to a text come behind its own, if no more lines are skipped
    than it has. -/
theorem records_append (hcolumns : columns ≠ []) (hfilled : ∃ c ∈ a, c ≠ '\n')
    (hskip : skip ≤ (linesOf a).length) (b : Text) :
    records columns skip (a ++ '\n' :: b) = records columns skip a ++ records columns 0 b := by
  have hdrop : Record.trimStart (a ++ '\n' :: b) = Record.trimStart a ++ '\n' :: b :=
    Record.trimStart_append (Record.trimStart_ne_nil_iff.mpr hfilled) _
  have hlength : skip ≤ (Record.trimStart a).lines.length := by
    obtain ⟨n, hlines⟩ := Record.exists_lines_trimStart_eq a
    rw [hlines, List.length_append]
    omega
  rw [records_eq_filterMap hcolumns, hdrop, Text.lines_append,
    List.drop_append_of_le_length hlength, List.filterMap_append,
    ← records_eq_filterMap hcolumns, ← records_zero_eq_filterMap hcolumns]

end Table

-- ════════════════════════════════════════════════════════════════════════
-- Matched segments
-- ════════════════════════════════════════════════════════════════════════

namespace Matching

variable {columns : List Text} {matcher : Text → Option (List (Option Text))} {number : Nat}
  {first second : List Text}

/-- Segments behind others add their records, or their error under the number it has there. An error
    of those before them stays. -/
theorem segments_append (columns : List Text) (matcher : Text → Option (List (Option Text)))
    (number : Nat) (first second : List Text) :
    segments columns matcher number (first ++ second) =
      match segments columns matcher number first with
      | .error e => .error e
      | .ok rs => (segments columns matcher (number + first.length) second).map (rs ++ ·) := by
  induction first generalizing number with
  | nil =>
    rw [List.nil_append, segments]
    cases segments columns matcher number second <;> simp [Except.map]
  | cons segment first ih =>
    have hnumber : number + (segment :: first).length = number + 1 + first.length := by
      rw [List.length_cons]
      omega
    rw [List.cons_append, segments, segments, hnumber]
    cases matcher segment with
    | none => exact ih (number + 1)
    | some groups =>
      by_cases hfits : groups.length = columns.length
      · simp only [if_pos hfits]
        rw [ih]
        cases segments columns matcher (number + 1) first with
        | error e => rfl
        | ok rs => cases segments columns matcher (number + 1 + first.length) second <;> rfl
      · simp only [if_neg hfits]

theorem segments_append_of_error {e : FormatError}
    (h : segments columns matcher number first = .error e) :
    segments columns matcher number (first ++ second) = .error e := by
  rw [segments_append, h]

theorem segments_append_of_ok {rs : List Record}
    (h : segments columns matcher number first = .ok rs) :
    segments columns matcher number (first ++ second) =
      (segments columns matcher (number + first.length) second).map (rs ++ ·) := by
  rw [segments_append, h]

/-- The number of a segment shows in errors only. -/
theorem segments_of_eq_ok {rs : List Record} (number' : Nat)
    (h : segments columns matcher number first = .ok rs) :
    segments columns matcher number' first = .ok rs := by
  induction first generalizing number number' rs with
  | nil => exact h
  | cons segment first ih =>
    rw [segments] at h ⊢
    cases hmatch : matcher segment with
    | none =>
      rw [hmatch] at h
      exact ih (number' + 1) h
    | some groups =>
      rw [hmatch] at h
      by_cases hfits : groups.length = columns.length
      · simp only [if_pos hfits] at h ⊢
        cases hrest : segments columns matcher (number + 1) first with
        | error e => rw [hrest] at h; cases h
        | ok rest =>
          rw [hrest] at h
          rw [ih (number' + 1) hrest]
          exact h
      · simp only [if_neg hfits] at h
        cases h

variable {pattern : Regex}

/-- Segments between line feeds are lines. -/
theorem records_lineFeed (columns : List Text) (pattern : Regex) (data : Text) :
    records ['\n'] columns pattern data = segments columns pattern.groups? 0 data.lines :=
  congrArg (segments columns pattern.groups? 0) (Text.splitText_singleton '\n' data)

theorem records_append_eq (columns : List Text) (pattern : Regex) (a b : Text) :
    records ['\n'] columns pattern (a ++ '\n' :: b) =
      segments columns pattern.groups? 0 (a.lines ++ b.lines) := by
  rw [records_lineFeed, Text.lines_append]

theorem records_append_of_fits (hfits : pattern.groupCount = columns.length) (a b : Text) :
    ∃ ra rb, records ['\n'] columns pattern a = .ok ra ∧
      records ['\n'] columns pattern b = .ok rb ∧
      records ['\n'] columns pattern (a ++ '\n' :: b) = .ok (ra ++ rb) := by
  have hreports := reports_groups? pattern
  obtain ⟨ra, hra, -⟩ := segments_of_fits hreports hfits 0 a.lines
  obtain ⟨rb, hrb, -⟩ := segments_of_fits hreports hfits 0 b.lines
  refine ⟨ra, rb, ?_, ?_, ?_⟩
  · rw [records_lineFeed, hra]
  · rw [records_lineFeed, hrb]
  · rw [records_append_eq, segments_append_of_ok hra, segments_of_eq_ok _ hrb]
    rfl

variable (hne : pattern.groupCount ≠ columns.length)
include hne

/-- The first match of a text is the error, with lines behind it too. -/
theorem records_append_of_matched (hmatch : ∃ line ∈ a.lines, (pattern.groups? line).isSome)
    (b : Text) :
    ∃ e, records ['\n'] columns pattern a = .error e ∧
      records ['\n'] columns pattern (a ++ '\n' :: b) = .error e := by
  obtain ⟨k, hk⟩ := exists_firstMatch hmatch
  have herror := segments_of_firstMatch (reports_groups? pattern) hne 0 hk
  refine ⟨_, (records_lineFeed _ _ _).trans herror, ?_⟩
  rw [records_append_eq, segments_append_of_error herror]

/-- Behind a text that does not match the first match is the error, and the lines of the text count
    in its number. -/
theorem records_append_of_unmatched (hnone : ∀ line ∈ a.lines, pattern.groups? line = none)
    (hmatch : ∃ line ∈ b.lines, (pattern.groups? line).isSome) :
    ∃ k, records ['\n'] columns pattern b =
        .error (.groupCount k columns.length pattern.groupCount) ∧
      records ['\n'] columns pattern (a ++ '\n' :: b) =
        .error (.groupCount (k + a.lines.length) columns.length pattern.groupCount) := by
  obtain ⟨k, hk⟩ := exists_firstMatch hmatch
  have hb := segments_of_firstMatch (reports_groups? pattern) hne 0 hk
  have hadded := segments_of_firstMatch (reports_groups? pattern) hne (0 + a.lines.length) hk
  rw [Nat.zero_add] at hb
  refine ⟨k, (records_lineFeed _ _ _).trans hb, ?_⟩
  rw [records_append_eq, segments_append_of_ok (segments_of_unmatched 0 hnone), hadded,
    Nat.zero_add, Nat.add_comm]
  rfl

end Matching

-- ════════════════════════════════════════════════════════════════════════
-- Paired lines
-- ════════════════════════════════════════════════════════════════════════

namespace KeyRow

variable {line : Nat} {lines added : List Text} {rs ra rb : List Record}

/-- The number of a line shows in errors only. -/
theorem pair_of_eq_ok {headerLine valueLine : Text} {r : Record} (line' : Nat)
    (h : pair line headerLine valueLine = .ok r) : pair line' headerLine valueLine = .ok r := by
  have hpaired : Paired headerLine valueLine := exists_pair_iff.mp ⟨r, h⟩
  obtain ⟨header, headers, value, values, hheader, hvalue, hlength, hid⟩ := hpaired.exists_fields
  rw [pair_of_fields _ hheader hvalue hlength hid] at h ⊢
  exact h

theorem pairs_of_eq_ok (line' : Nat) (h : pairs line lines = .ok rs) :
    pairs line' lines = .ok rs := by
  fun_induction pairs line lines generalizing line' rs with
  | case1 => cases h
  | case2 line header value lines r hpair ih =>
    obtain ⟨rest, hrest, rfl⟩ := exists_of_map_eq_ok h
    rw [pairs, pair_of_eq_ok line' hpair, ih (line' + 2) hrest]
    rfl
  | case3 lines line hshort =>
    rw [pairs]
    · exact h
    · exact hshort

/-- Pairs of lines behind others add their records. -/
theorem pairs_append {line' : Nat} (hfirst : pairs line lines = .ok ra)
    (heven : lines.length % 2 = 0) (hsecond : pairs line' added = .ok rb) :
    pairs line (lines ++ added) = .ok (ra ++ rb) := by
  fun_induction pairs line lines generalizing ra with
  | case1 => cases hfirst
  | case2 line header value lines r hpair ih =>
    have heven' : lines.length % 2 = 0 := by
      simp only [List.length_cons] at heven
      omega
    obtain ⟨rest, hrest, rfl⟩ := exists_of_map_eq_ok hfirst
    rw [List.cons_append, List.cons_append, pairs, hpair, ih hrest heven']
    rfl
  | case3 lines line hshort =>
    have hlength := length_lt_two hshort
    obtain rfl : lines = [] := List.length_eq_zero_iff.mp (by omega)
    obtain rfl := Except.ok.inj hfirst
    exact pairs_of_eq_ok line hsecond

/-- Two texts keep their lines if they are joined where the one ends and the other starts with a
    line that is not empty. -/
theorem linesOf_append (ha : Record.trimLines a ≠ []) (hb : Record.trimLines b ≠ [])
    (hlast : a.getLast? ≠ some '\n') (hhead : b.head? ≠ some '\n') :
    linesOf (a ++ '\n' :: b) = linesOf a ++ linesOf b := by
  have hstarta : Record.trimStart a ≠ [] := fun hnil => ha (congrArg (Text.stripEnd _) hnil)
  have htrima : Record.trimLines a = Record.trimStart a := by
    refine Record.stripEnd_of_getLast? ?_
    obtain ⟨front, hfront⟩ : Record.trimStart a <:+ a := List.dropWhile_suffix _
    rwa [← hfront, List.getLast?_append_of_ne_nil _ hstarta] at hlast
  have hstartb : Record.trimStart b = b := Record.trimStart_of_head? hhead
  have htrimb : Record.trimLines b = Text.stripEnd (· == '\n') b :=
    congrArg (Text.stripEnd _) hstartb
  have hjoined : Record.trimLines (a ++ '\n' :: b) =
      Record.trimLines a ++ '\n' :: Record.trimLines b := by
    rw [htrimb] at hb
    have hstrip := Text.strip_append ['\n'] hstarta hb
    rw [List.append_assoc, List.append_assoc] at hstrip
    rw [htrima, htrimb]
    exact hstrip
  rw [linesOf, hjoined, Text.lines_append]
  rfl

/-- A text that is accepted has more than line feeds. -/
theorem trimLines_ne_nil (h : records a = .ok ra) : Record.trimLines a ≠ [] := by
  intro hnil
  have heven := (records_eq_ok_iff.mp h).1
  rw [linesOf, hnil] at heven
  cases heven

/-- The pairs of lines that are added to a text come behind its own. -/
theorem records_append (ha : records a = .ok ra) (hb : records b = .ok rb)
    (hlast : a.getLast? ≠ some '\n') (hhead : b.head? ≠ some '\n') :
    records (a ++ '\n' :: b) = .ok (ra ++ rb) := by
  obtain ⟨hevena, hpairsa⟩ := records_eq_ok_iff.mp ha
  obtain ⟨hevenb, hpairsb⟩ := records_eq_ok_iff.mp hb
  rw [records_eq_ok_iff,
    linesOf_append (trimLines_ne_nil ha) (trimLines_ne_nil hb) hlast hhead]
  refine ⟨?_, pairs_append hpairsa hevena hpairsb⟩
  rw [List.length_append]
  omega

end KeyRow

-- ════════════════════════════════════════════════════════════════════════
-- Added lines
-- ════════════════════════════════════════════════════════════════════════

/-- Lines that are added to a text add their records. The rows of a table come behind those of a
    text that is not all line feeds, if no more lines are skipped than the text has. By a pattern
    with a group for every column the records come one behind the other; with another number of
    groups the first match of all is the error, and in the added lines it is numbered behind the
    lines of the text. Pairs of lines come behind pairs of lines if no line feed stands at the
    joint. -/
theorem Record.records_added_lines (a b : Text) :
    (∀ columns skip, columns ≠ [] → (∃ c ∈ a, c ≠ '\n') → skip ≤ (linesOf a).length →
      Table.records columns skip (a ++ '\n' :: b) =
        Table.records columns skip a ++ Table.records columns 0 b) ∧
    (∀ columns (pattern : Regex), pattern.groupCount = columns.length →
      ∃ ra rb, Matching.records ['\n'] columns pattern a = .ok ra ∧
        Matching.records ['\n'] columns pattern b = .ok rb ∧
        Matching.records ['\n'] columns pattern (a ++ '\n' :: b) = .ok (ra ++ rb)) ∧
    (∀ columns (pattern : Regex), pattern.groupCount ≠ columns.length →
      ((∃ line ∈ a.lines, (pattern.groups? line).isSome) →
        ∃ e, Matching.records ['\n'] columns pattern a = .error e ∧
          Matching.records ['\n'] columns pattern (a ++ '\n' :: b) = .error e) ∧
      ((∀ line ∈ a.lines, pattern.groups? line = none) →
        ((∃ line ∈ b.lines, (pattern.groups? line).isSome) →
          ∃ k, Matching.records ['\n'] columns pattern b =
              .error (.groupCount k columns.length pattern.groupCount) ∧
            Matching.records ['\n'] columns pattern (a ++ '\n' :: b) =
              .error (.groupCount (k + a.lines.length) columns.length pattern.groupCount)) ∧
        ((∀ line ∈ b.lines, pattern.groups? line = none) →
          Matching.records ['\n'] columns pattern (a ++ '\n' :: b) = .ok []))) ∧
    ∀ ra rb, KeyRow.records a = .ok ra → KeyRow.records b = .ok rb →
      a.getLast? ≠ some '\n' → b.head? ≠ some '\n' →
      KeyRow.records (a ++ '\n' :: b) = .ok (ra ++ rb) := by
  refine ⟨fun columns skip hcolumns hfilled hskip => Table.records_append hcolumns hfilled hskip b,
    fun columns pattern hfits => Matching.records_append_of_fits hfits a b,
    fun columns pattern hne => ⟨fun hmatch => Matching.records_append_of_matched hne hmatch b,
      fun hnone => ⟨Matching.records_append_of_unmatched hne hnone, fun hnone' => ?_⟩⟩,
    fun ra rb => KeyRow.records_append⟩
  rw [Matching.records_append_eq]
  exact Matching.segments_of_unmatched 0 (List.forall_mem_append.mpr ⟨hnone, hnone'⟩)

/-- Empty lines around the joint of two tables, one match in the added lines only, and two pairs of
    lines. -/
theorem Record.records_added_lines_empty_line :
    (let columns := [['x'], ['y']]
      let a := "\nh g\np q\n\n".toList
      let b := "\nr s".toList
      Table.records columns 1 (a ++ '\n' :: b) =
        Table.records columns 1 a ++ Table.records columns 0 b) ∧
    (∃ pattern, Regex.compile? "(a)(b)?".toList = some pattern ∧
      (∃ ra rb, Matching.records ['\n'] [['x'], ['y']] pattern "-\n".toList = .ok ra ∧
        Matching.records ['\n'] [['x'], ['y']] pattern "-\na".toList = .ok rb ∧
        Matching.records ['\n'] [['x'], ['y']] pattern "-\n\n-\na".toList = .ok (ra ++ rb)) ∧
      Matching.records ['\n'] [['x']] pattern "-\n\n-\na".toList =
        .error (.groupCount 3 1 2)) ∧
    ∃ ra rb, KeyRow.records "foo: x\nfoo: p".toList = .ok ra ∧
      KeyRow.records "bar y\nbar q\n".toList = .ok rb ∧
      KeyRow.records "foo: x\nfoo: p\nbar y\nbar q\n".toList = .ok (ra ++ rb) := by
  have hcompiled : (Regex.compile? "(a)(b)?".toList).isSome := by decide +kernel
  obtain ⟨pattern, hpattern⟩ := Option.isSome_iff_exists.mp hcompiled
  have hcount : pattern.groupCount = 2 :=
    Matching.eq_of_map_compile? hpattern Regex.groupCount (by decide +kernel)
  have hempty : pattern.groups? [] = none :=
    Matching.eq_of_map_compile? hpattern (Regex.groups? · []) (by decide +kernel)
  have hdash : pattern.groups? ['-'] = none :=
    Matching.eq_of_map_compile? hpattern (Regex.groups? · ['-']) (by decide +kernel)
  have hmatch : pattern.groups? ['a'] = some [some ['a'], none] :=
    Matching.eq_of_map_compile? hpattern (Regex.groups? · ['a']) (by decide +kernel)
  refine ⟨?_, ⟨pattern, hpattern, ?_, ?_⟩, ?_⟩
  · exact (records_added_lines _ _).1 _ 1 (List.cons_ne_nil _ _) ⟨'h', by decide, by decide⟩
      (by decide)
  · exact (records_added_lines "-\n".toList "-\na".toList).2.1 _ pattern hcount
  · have hne : pattern.groupCount ≠ [['x']].length := by rw [hcount]; decide
    have hlinesa : Text.lines "-\n".toList = [['-'], []] := by decide
    have hlinesb : Text.lines "-\na".toList = [['-'], ['a']] := by decide
    have hnone : ∀ line ∈ Text.lines "-\n".toList, pattern.groups? line = none := by
      rw [hlinesa, List.forall_mem_cons, List.forall_mem_singleton]
      exact ⟨hdash, hempty⟩
    have hb : Matching.records ['\n'] [['x']] pattern "-\na".toList =
        .error (.groupCount 1 1 2) := by
      rw [Matching.records_lineFeed, hlinesb, Matching.segments, hdash]
      simp [Matching.segments, hmatch]
    obtain ⟨k, hb', hjoined⟩ := (((records_added_lines "-\n".toList "-\na".toList).2.2.1
      [['x']] pattern hne).2 hnone).1 ⟨['a'], by rw [hlinesb]; decide, by rw [hmatch]; rfl⟩
    obtain rfl : 1 = k := by
      rw [hb] at hb'
      exact (FormatError.groupCount.inj (Except.error.inj hb')).1
    rw [hlinesa, hcount] at hjoined
    exact hjoined
  · exact ⟨_, _, rfl, rfl, (records_added_lines "foo: x\nfoo: p".toList
      "bar y\nbar q\n".toList).2.2.2 _ _ rfl rfl (by decide) (by decide)⟩

end Telemetry
