import Telemetry.Text.Basic

/-!
# Laws of splitting

Splitting at a character undoes joining with it, so the pieces of a text are the only ones without
the character that joined make the text again. Splitting is the standard `List.splitOn` here, and
the laws are those of the standard library.

## Main statements

- `Text.splitChar_eq_splitOn` — splitting is the standard splitting of lists
- `Text.splitChar_eq_iff` — the pieces of a text are determined by the text that they join to
- `Text.join_splitText`, `Text.not_infix_of_mem_splitText` — what splitting at a longer separator
  gives
- `Text.braced?_eq_some_iff` — a text has an inside exactly if it stands between braces
-/

namespace Telemetry.Text

-- ════════════════════════════════════════════════════════════════════════
-- Splitting and joining
-- ════════════════════════════════════════════════════════════════════════

theorem splitWhere_eq_splitOnP (sep : Char → Bool) (t : Text) :
    splitWhere sep t = List.splitOnP sep t := by
  induction t with
  | nil => simp [splitWhere]
  | cons c t ih =>
    rw [splitWhere, List.splitOnP_cons_eq_if_modifyHead, ih]
    by_cases hc : sep c
    · rw [if_pos hc, if_pos hc]
    · rw [if_neg hc, if_neg hc]
      cases h : List.splitOnP sep t with
      | nil => exact absurd h (List.splitOnP_ne_nil sep t)
      | cons piece pieces => rfl

variable {sep : Char} {t : Text} {pieces : List Text}

theorem splitChar_eq_splitOn (sep : Char) (t : Text) : splitChar sep t = List.splitOn sep t :=
  splitWhere_eq_splitOnP _ t

theorem join_splitChar (sep : Char) (t : Text) : join [sep] (splitChar sep t) = t := by
  rw [splitChar_eq_splitOn]
  exact List.intercalate_splitOn sep

theorem splitChar_join (free : ∀ piece ∈ pieces, sep ∉ piece) (ne : pieces ≠ []) :
    splitChar sep (join [sep] pieces) = pieces := by
  rw [splitChar_eq_splitOn]
  exact List.splitOn_intercalate sep free ne

/-- No piece holds the character at which the text was split. -/
theorem not_mem_of_mem_splitChar {piece : Text} (h : piece ∈ splitChar sep t) : sep ∉ piece := by
  induction t generalizing piece with
  | nil =>
    obtain rfl : piece = [] := by simpa [splitChar, splitWhere] using h
    exact List.not_mem_nil
  | cons c t ih =>
    rw [splitChar, splitWhere] at h
    by_cases hc : (c == sep) = true
    · rw [if_pos hc] at h
      obtain rfl | h := List.mem_cons.mp h
      · exact List.not_mem_nil
      · exact ih h
    · rw [if_neg hc] at h
      cases hs : splitWhere (· == sep) t with
      | nil => exact absurd hs (splitWhere_ne_nil _ t)
      | cons first rest =>
        rw [hs] at h
        obtain rfl | h := List.mem_cons.mp h
        · have hfirst : sep ∉ first := ih (by rw [splitChar, hs]; exact List.mem_cons_self)
          have hne : sep ≠ c := fun h => hc (beq_iff_eq.mpr h.symm)
          exact List.not_mem_cons_of_ne_of_not_mem hne hfirst
        · exact ih (by rw [splitChar, hs]; exact List.mem_cons_of_mem first h)

/-- The pieces of a text are the only list of texts without the separator that joins to it. -/
theorem splitChar_eq_iff :
    splitChar sep t = pieces ↔
      pieces ≠ [] ∧ (∀ piece ∈ pieces, sep ∉ piece) ∧ join [sep] pieces = t := by
  constructor
  · rintro rfl
    exact ⟨splitWhere_ne_nil _ t, fun _ => not_mem_of_mem_splitChar, join_splitChar sep t⟩
  · rintro ⟨ne, free, rfl⟩
    exact splitChar_join free ne

/-- There is one piece more than there are separators. -/
theorem length_splitChar (sep : Char) (t : Text) : (splitChar sep t).length = t.count sep + 1 := by
  rw [splitChar]
  fun_induction splitWhere (· == sep) t with
  | case1 => rfl
  | case2 c t hc ih => rw [List.length_cons, ih, beq_iff_eq.mp hc, List.count_cons_self]
  | case3 c t hc hnil ih => exact absurd hnil (splitWhere_ne_nil _ t)
  | case4 c t hc piece pieces hpieces ih =>
    have hne : c ≠ sep := fun heq => hc (beq_iff_eq.mpr heq)
    rw [hpieces] at ih
    rw [List.count_cons_of_ne hne, ← ih, List.length_cons, List.length_cons]

theorem lines_of_not_mem (h : '\n' ∉ t) : t.lines = [t] :=
  splitChar_eq_iff.mpr ⟨List.cons_ne_nil _ _, by simpa using h, by simp [join]⟩

/-- The lines of two texts with a line feed between them are those of the one and those of the
    other. -/
theorem lines_append (a b : Text) : (a ++ '\n' :: b).lines = a.lines ++ b.lines := by
  rw [lines, lines, lines, splitChar_eq_splitOn, splitChar_eq_splitOn, splitChar_eq_splitOn,
    List.splitOn_append_cons_self]

theorem lines_ne_nil (t : Text) : t.lines ≠ [] :=
  splitWhere_ne_nil _ t

/-- A text starts with its first line. -/
theorem exists_prefix_mem_lines (t : Text) : ∃ l ∈ t.lines, l <+: t := by
  obtain ⟨l, ls, hlines⟩ := List.exists_cons_of_ne_nil (lines_ne_nil t)
  have hjoin : join ['\n'] (l :: ls) = t := hlines ▸ join_splitChar '\n' t
  refine ⟨l, hlines ▸ List.mem_cons_self, ?_⟩
  rw [← hjoin]
  cases ls with
  | nil => simp [join]
  | cons next ls => simp [join, List.intercalate]

-- ════════════════════════════════════════════════════════════════════════
-- Separators of several characters
-- ════════════════════════════════════════════════════════════════════════

@[simp] theorem join_singleton (sep piece : Text) : join sep [piece] = piece := by
  simp [join, List.intercalate]

theorem join_cons (sep piece : Text) {pieces : List Text} (ne : pieces ≠ []) :
    join sep (piece :: pieces) = piece ++ sep ++ join sep pieces := by
  cases pieces with
  | nil => exact absurd rfl ne
  | cons next pieces => simp [join, List.intercalate]

theorem join_cons_head (sep : Text) (c : Char) (piece : Text) (pieces : List Text) :
    join sep ((c :: piece) :: pieces) = c :: join sep (piece :: pieces) := by
  cases pieces with
  | nil => rw [join_singleton, join_singleton]
  | cons next pieces =>
    have ne : next :: pieces ≠ [] := List.cons_ne_nil next pieces
    rw [join_cons sep (c :: piece) ne, join_cons sep piece ne]
    rfl

theorem join_append (sep : Text) {before after : List Text} (hbefore : before ≠ [])
    (hafter : after ≠ []) :
    join sep (before ++ after) = join sep before ++ sep ++ join sep after := by
  induction before with
  | nil => exact absurd rfl hbefore
  | cons piece before ih =>
    cases before with
    | nil => rw [List.singleton_append, join_cons sep piece hafter, join_singleton]
    | cons next before =>
      have ne : next :: before ≠ [] := List.cons_ne_nil next before
      rw [List.cons_append, join_cons sep piece (List.append_ne_nil_of_left_ne_nil ne after), ih ne,
        join_cons sep piece ne]
      simp only [List.append_assoc]

/-- Joining adds no character but those of the separator. -/
theorem count_join {mark : Text} {c : Char} (h : c ∉ mark) (pieces : List Text) :
    (join mark pieces).count c = pieces.flatten.count c := by
  induction pieces with
  | nil => rfl
  | cons piece pieces ih =>
    by_cases hnil : pieces = []
    · subst hnil
      simp
    · rw [join_cons mark piece hnil, List.count_append, List.count_append,
        List.count_eq_zero.mpr h, ih, List.flatten_cons, List.count_append, Nat.add_zero]

/-- A piece of a joined text stands in it. -/
theorem infix_join_of_mem (sep : Text) {piece : Text} {pieces : List Text} (h : piece ∈ pieces) :
    piece <:+: join sep pieces := by
  induction pieces with
  | nil => cases h
  | cons first rest ih =>
    by_cases hrest : rest = []
    · subst hrest
      obtain rfl := List.mem_singleton.mp h
      exact ⟨[], [], by simp⟩
    · rw [join_cons sep first hrest]
      rcases List.mem_cons.mp h with rfl | h
      · exact ⟨[], sep ++ join sep rest, by simp⟩
      · exact (ih h).trans (List.suffix_append _ _).isInfix

/-- A separator of one character splits at that character. -/
theorem splitText_singleton (sep : Char) (t : Text) : splitText [sep] t = splitChar sep t := by
  induction t with
  | nil => rw [splitText]; rfl
  | cons c t ih =>
    have hpre : [sep].isPrefixOf (c :: t) = (c == sep) := by
      rw [List.isPrefixOf, List.isPrefixOf, Bool.and_true, Bool.beq_comm]
    rw [splitText, hpre, List.length_singleton, Nat.sub_self, List.drop_zero, ih]
    rfl

variable {mark : Text}

/-- The pieces of a text joined by the separator make the text again. -/
theorem join_splitText (ne : mark ≠ []) (t : Text) : join mark (splitText mark t) = t := by
  fun_induction splitText mark t with
  | case1 => rfl
  | case2 c t hpre ih =>
    obtain ⟨rest, hrest⟩ := List.isPrefixOf_iff_prefix.mp hpre
    have hdrop : t.drop (mark.length - 1) = rest := by
      have hlength : 0 < mark.length := List.length_pos_iff.mpr ne
      have hcons : (c :: t).drop mark.length = rest := by rw [← hrest, List.drop_left]
      rw [← hcons, ← Nat.sub_add_cancel hlength, List.drop_succ_cons, Nat.sub_add_cancel hlength]
    rw [join_cons _ _ (splitText_ne_nil _ _), ih, hdrop, List.nil_append, hrest]
  | case3 c t hpre hnil ih => exact absurd hnil (splitText_ne_nil _ _)
  | case4 c t hpre piece pieces hpieces ih => rw [join_cons_head, ← hpieces, ih]

/-- The separator does not occur in any piece. -/
theorem not_infix_of_mem_splitText (ne : mark ≠ []) {t piece : Text}
    (h : piece ∈ splitText mark t) : ¬ mark <:+: piece := by
  fun_induction splitText mark t generalizing piece with
  | case1 =>
    obtain rfl := List.mem_singleton.mp h
    rwa [List.infix_nil]
  | case2 c t hpre ih =>
    obtain rfl | h := List.mem_cons.mp h
    · rwa [List.infix_nil]
    · exact ih h
  | case3 c t hpre hnil ih => exact absurd hnil (splitText_ne_nil _ _)
  | case4 c t hpre first rest hpieces ih =>
    rw [hpieces] at ih
    obtain rfl | h := List.mem_cons.mp h
    · -- An occurrence at the start of the first piece is one at the start of the text.
      have hfirst : first <+: t := by
        rw [← join_splitText ne t, hpieces]
        cases rest with
        | nil => simp
        | cons next rest =>
          rw [join_cons _ _ (List.cons_ne_nil next rest), List.append_assoc]
          exact List.prefix_append _ _
      rw [List.infix_cons_iff, not_or]
      refine ⟨fun hstart => hpre ?_, ih List.mem_cons_self⟩
      rw [List.isPrefixOf_iff_prefix]
      exact hstart.trans ((List.prefix_cons_inj c).mpr hfirst)
    · exact ih (List.mem_cons_of_mem first h)

-- ════════════════════════════════════════════════════════════════════════
-- Braces
-- ════════════════════════════════════════════════════════════════════════

/-- A text has an inside exactly if it is that inside between braces. -/
theorem braced?_eq_some_iff {inside : Text} :
    t.braced? = some inside ↔ t = '{' :: inside ++ ['}'] := by
  constructor
  · intro h
    unfold braced? at h
    split at h
    · split at h
      · rename_i hlast
        obtain ⟨body, rfl⟩ := List.getLast?_eq_some_iff.mp hlast
        obtain rfl : body = inside := by simpa using h
        rfl
      · cases h
    · cases h
  · rintro rfl
    simp [braced?]

end Telemetry.Text
