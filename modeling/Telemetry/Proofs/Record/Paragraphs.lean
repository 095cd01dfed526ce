import Telemetry.Proofs.Text.Splitting
import Telemetry.Record.Format

/-!
# Paragraphs of key and value lines

If records stand between empty lines, a text is read paragraph by paragraph: every maximal run of
lines that are not empty is a block. How many empty lines stand between two runs, or around all of
them, makes no difference, although the separator cuts a longer run of line feeds at every second
one.

## Main definitions

- `Text.runs` — the maximal runs of lines that are not empty
- `Text.paragraphs` — the runs of the lines of a text

## Main statements

- `Text.paragraphs_append` — an empty line separates the paragraphs of two texts
- `Text.paragraphs_of_not_infix` — a piece between separators is one paragraph at most
- `KeyValue.records_paragraphs` — the records of a text are those of its paragraphs
-/

namespace Telemetry

namespace Text

-- ════════════════════════════════════════════════════════════════════════
-- Runs of lines
-- ════════════════════════════════════════════════════════════════════════

/-- The maximal runs of lines that are not empty. -/
def runs (lines : List Text) : List (List Text) :=
  (lines.splitOnP List.isEmpty).filter fun run => !run.isEmpty

/-- The maximal runs of consecutive lines of a text that are not empty. -/
def paragraphs (t : Text) : List (List Text) :=
  runs t.lines

example : paragraphs "\na\n\n\nb\nc\n\n\n\n\nd".toList = [[['a']], [['b'], ['c']], [['d']]] := by
  decide

/-- The lines of a text that are not empty. -/
def filledLines (t : Text) : List Text :=
  t.lines.filter fun line => !line.isEmpty

theorem runs_append (before after : List Text) :
    runs (before ++ [] :: after) = runs before ++ runs after := by
  rw [runs, List.splitOnP_append_cons _ _ List.isEmpty_nil, List.filter_append, ← runs, ← runs]

theorem runs_of_forall_ne {lines : List Text} (h : [] ∉ lines) :
    runs lines = [lines].filter fun run => !run.isEmpty := by
  rw [runs, List.splitOnP_eq_singleton]
  intro line hline
  cases line with
  | nil => exact absurd hline h
  | cons c line => rfl

/-- Lines of which only the last may be empty are one run at most. -/
theorem runs_of_last_empty {lines : List Text}
    (h : ∀ before after, lines = before ++ [] :: after → after = []) :
    runs lines = [lines.filter fun line => !line.isEmpty].filter fun run => !run.isEmpty := by
  have hkept : ∀ ls : List Text, [] ∉ ls → ls.filter (fun line => !line.isEmpty) = ls := by
    intro ls hls
    rw [List.filter_eq_self]
    intro line hline
    cases line with
    | nil => exact absurd hline hls
    | cons c line => rfl
  by_cases hempty : [] ∈ lines
  · obtain ⟨before, after, rfl, hbefore⟩ := List.eq_append_cons_of_mem hempty
    obtain rfl := h before after rfl
    rw [runs_append, runs_of_forall_ne hbefore, List.filter_append, hkept before hbefore]
    simp [runs]
  · rw [runs_of_forall_ne hempty, hkept lines hempty]

-- ════════════════════════════════════════════════════════════════════════
-- Paragraphs
-- ════════════════════════════════════════════════════════════════════════

/-- The paragraphs of two texts with an empty line between them are those of the one and those of
    the other. -/
theorem paragraphs_append (a b : Text) :
    paragraphs (a ++ ['\n', '\n'] ++ b) = paragraphs a ++ paragraphs b := by
  have hlines : (a ++ ['\n', '\n'] ++ b).lines = a.lines ++ [] :: b.lines := by
    rw [List.append_assoc, List.cons_append, lines_append, List.singleton_append]
    exact congrArg (a.lines ++ ·) (lines_append [] b)
  rw [paragraphs, hlines, runs_append, ← paragraphs, ← paragraphs]

/-- A line feed in front of a text makes no paragraph. -/
theorem paragraphs_cons (t : Text) : paragraphs ('\n' :: t) = paragraphs t :=
  (congrArg runs (lines_append [] t)).trans (runs_append [] t.lines)

/-- A line feed behind a text makes no paragraph. -/
theorem paragraphs_concat (t : Text) : paragraphs (t ++ ['\n']) = paragraphs t := by
  rw [paragraphs, lines_append]
  exact (runs_append t.lines []).trans (List.append_nil _)

theorem paragraphs_join {pieces : List Text} (ne : pieces ≠ []) :
    paragraphs (join ['\n', '\n'] pieces) = pieces.flatMap paragraphs := by
  induction pieces with
  | nil => exact absurd rfl ne
  | cons piece pieces ih =>
    cases pieces with
    | nil => rw [join_singleton, List.flatMap_singleton]
    | cons next pieces =>
      have hnext : next :: pieces ≠ [] := List.cons_ne_nil next pieces
      rw [join_cons _ _ hnext, paragraphs_append, ih hnext]
      rfl

/-- Without an empty line between others, a text has one paragraph at most: all its lines that are
    not empty. -/
theorem paragraphs_of_not_infix {t : Text} (h : ¬ ['\n', '\n'] <:+: t) :
    paragraphs t = [t.filledLines].filter fun run => !run.isEmpty := by
  -- An empty line with lines on both sides would stand between two line feeds.
  have hends : ∀ before after, t.lines = before ++ [] :: after → before = [] ∨ after = [] := by
    intro before after hlines
    refine Decidable.or_iff_not_imp_left.mpr fun hbefore => ?_
    refine Decidable.byContradiction fun hafter => h ?_
    refine ⟨join ['\n'] before, join ['\n'] after, ?_⟩
    rw [← join_splitChar '\n' t, ← lines, hlines, join_append _ hbefore (List.cons_ne_nil _ _),
      join_cons _ _ hafter]
    simp
  rw [paragraphs, filledLines]
  cases hlines : t.lines with
  | nil => exact absurd hlines (lines_ne_nil t)
  | cons line lines =>
    rw [hlines] at hends
    by_cases hline : line = []
    · subst hline
      have hrest : ∀ before after, lines = before ++ [] :: after → after = [] := by
        intro before after hrest
        exact (hends ([] :: before) after (by rw [hrest]; rfl)).resolve_left (List.cons_ne_nil _ _)
      have hruns : runs ([] :: lines) = runs lines := runs_append [] lines
      rw [hruns, runs_of_last_empty hrest]
      rfl
    · refine runs_of_last_empty fun before after hsplit => ?_
      refine (hends before after hsplit).resolve_left ?_
      rintro rfl
      exact hline (List.cons.inj hsplit).1

end Text

-- ════════════════════════════════════════════════════════════════════════
-- Blocks
-- ════════════════════════════════════════════════════════════════════════

namespace KeyValue

theorem pair?_nil (separator : Text) : pair? separator [] = none := by
  cases separator with
  | nil => rfl
  | cons c separator => simp [pair?, tokens, Text.splitText]

/-- Empty lines do not change the record of a block. -/
theorem block_eq_ofList (separator data : Text) :
    block separator data = SortedMap.ofList (data.filledLines.filterMap (pair? separator)) := by
  have hline : ∀ line : Text,
      (if !line.isEmpty then pair? separator line else none) = pair? separator line := by
    intro line
    cases line with
    | nil => exact (pair?_nil separator).symm
    | cons c line => rfl
  rw [block, Text.filledLines, List.filterMap_filter]
  simp only [hline]

/-- The record of a paragraph, whose lines are joined again. -/
def ofParagraph (separator : Text) (run : List Text) : Record :=
  block separator (Text.join ['\n'] run)

/-- The record of a block without an empty line between others is that of its only paragraph. -/
theorem filter_block_of_not_infix (separator : Text) {data : Text} (h : ¬ ['\n', '\n'] <:+: data) :
    [block separator data].filter (fun r => !r.isEmpty) =
      (data.paragraphs.map (ofParagraph separator)).filter fun r => !r.isEmpty := by
  have hfree : ∀ line ∈ data.filledLines, '\n' ∉ line := fun line hline =>
    Text.not_mem_of_mem_splitChar (List.mem_filter.mp hline).1
  rw [Text.paragraphs_of_not_infix h]
  by_cases hempty : data.filledLines = []
  · rw [block_eq_ofList, hempty]
    rfl
  · have hlines : (Text.join ['\n'] data.filledLines).filledLines = data.filledLines := by
      rw [Text.filledLines, Text.lines, Text.splitChar_join hfree hempty, Text.filledLines,
        List.filter_filter]
      simp only [Bool.and_self]
    have hblock : ofParagraph separator data.filledLines = block separator data := by
      rw [ofParagraph, block_eq_ofList, hlines, ← block_eq_ofList]
    have hrun : [data.filledLines].filter (fun run => !run.isEmpty) = [data.filledLines] :=
      List.filter_cons_of_pos (by simpa using hempty)
    rw [hrun, List.map_singleton, hblock]

/-- The records of pieces without empty lines between others are those of their paragraphs. -/
theorem filter_map_block_of_not_infix (separator : Text) {pieces : List Text}
    (h : ∀ piece ∈ pieces, ¬ ['\n', '\n'] <:+: piece) :
    (pieces.map (block separator)).filter (fun r => !r.isEmpty) =
      ((pieces.flatMap Text.paragraphs).map (ofParagraph separator)).filter
        fun r => !r.isEmpty := by
  induction pieces with
  | nil => rfl
  | cons piece pieces ih =>
    have hpiece := filter_block_of_not_infix separator (h piece List.mem_cons_self)
    have hrest := ih fun p hp => h p (List.mem_cons_of_mem piece hp)
    rw [List.flatMap_cons, List.map_append, List.filter_append, ← hpiece, ← hrest,
      ← List.filter_append, List.map_cons, List.singleton_append]

/-- The records between empty lines are those of the paragraphs, each read on its own, as far as
    they are not empty. -/
theorem records_eq_paragraphs (separator data : Text) :
    records Format.defaultBlockSeparator separator data =
      (data.paragraphs.map (ofParagraph separator)).filter fun r => !r.isEmpty := by
  have ne : ['\n', '\n'] ≠ [] := List.cons_ne_nil '\n' ['\n']
  have hjoin := Text.paragraphs_join (Text.splitText_ne_nil ['\n', '\n'] data)
  rw [Text.join_splitText ne] at hjoin
  rw [hjoin, ← filter_map_block_of_not_infix separator fun _ => Text.not_infix_of_mem_splitText ne]
  rfl

variable (separator a b : Text)

theorem records_append :
    records Format.defaultBlockSeparator separator (a ++ ['\n', '\n'] ++ b) =
      records Format.defaultBlockSeparator separator a ++
        records Format.defaultBlockSeparator separator b := by
  simp only [records_eq_paragraphs, Text.paragraphs_append, List.map_append, List.filter_append]

theorem records_lineFeeds_append (n : Nat) :
    records Format.defaultBlockSeparator separator (List.replicate n '\n' ++ a) =
      records Format.defaultBlockSeparator separator a := by
  induction n with
  | zero => rfl
  | succ n ih =>
    rw [← ih, records_eq_paragraphs, records_eq_paragraphs, List.replicate_succ, List.cons_append,
      Text.paragraphs_cons]

theorem records_append_lineFeeds (n : Nat) :
    records Format.defaultBlockSeparator separator (a ++ List.replicate n '\n') =
      records Format.defaultBlockSeparator separator a := by
  induction n with
  | zero => rw [List.replicate_zero, List.append_nil]
  | succ n ih =>
    rw [← ih, records_eq_paragraphs, records_eq_paragraphs, List.replicate_succ', ←
      List.append_assoc, Text.paragraphs_concat]

/-- The records between empty lines are those of the paragraphs of a text, in order, as far as they
    are not empty. So two texts with an empty line between them have the records of the one and then
    those of the other, and neither the number of empty lines between them nor line feeds at the
    ends of a text make a difference. -/
theorem records_paragraphs :
    (∀ data, records Format.defaultBlockSeparator separator data =
      (data.paragraphs.map fun run => block separator (Text.join ['\n'] run)).filter
        fun r => !r.isEmpty) ∧
    (∀ a b, records Format.defaultBlockSeparator separator (a ++ ['\n', '\n'] ++ b) =
      records Format.defaultBlockSeparator separator a ++
        records Format.defaultBlockSeparator separator b) ∧
    (∀ a b n, records Format.defaultBlockSeparator separator
        (a ++ List.replicate (n + 2) '\n' ++ b) =
      records Format.defaultBlockSeparator separator (a ++ ['\n', '\n'] ++ b)) ∧
    ∀ a m n, records Format.defaultBlockSeparator separator
        (List.replicate m '\n' ++ a ++ List.replicate n '\n') =
      records Format.defaultBlockSeparator separator a := by
  refine ⟨records_eq_paragraphs separator, records_append separator, fun a b n => ?_,
    fun a m n => ?_⟩
  · have hgap : a ++ List.replicate (n + 2) '\n' ++ b =
        a ++ ['\n', '\n'] ++ (List.replicate n '\n' ++ b) := by
      simp [List.replicate_succ]
    rw [hgap, records_append, records_append, records_lineFeeds_append]
  · rw [records_append_lineFeeds, records_lineFeeds_append]

end KeyValue

end Telemetry
