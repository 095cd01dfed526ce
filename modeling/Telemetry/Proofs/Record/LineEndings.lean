import Telemetry.Proofs.Record.Concatenation
import Telemetry.Proofs.Basic
import Telemetry.Proofs.Value.Canonical
import Telemetry.Record.KeyValue

/-!
# Line endings

A text whose lines end with a carriage return and a line feed has the records of the same text with
line feeds alone. The carriage return is a blank, so it is in no field of a line; behind a separator
that does not hold it, it comes at the end of the last piece, and there it is padding of a value.

Line feeds at the ends of a text are trimmed, but a line that holds a carriage return is not empty.
So lines may be left at the end that are trimmed otherwise: they are no rows of a table with
columns, but they count as paired lines.

## Main definitions

- `Text.withReturns` — a text with a carriage return in front of every line feed
- `Text.Returned` — a line, or a line with a carriage return at its end

## Main statements

- `Text.forall₂_lines_withReturns` — the lines, one by one
- `KeyRow.forall₂_linesOf_withReturns` — the same for the lines that are left after trimming
- `KeyValue.pair?_concat_return` — a line of a key and a value
- `Record.records_line_endings` — the records of a text
-/

namespace Telemetry

open KeyRow (linesOf)

-- ════════════════════════════════════════════════════════════════════════
-- Lines
-- ════════════════════════════════════════════════════════════════════════

namespace Text

/-- A text with a carriage return in front of every line feed. -/
def withReturns (t : Text) : Text :=
  t.flatMap fun c => if c = '\n' then ['\r', '\n'] else [c]

/-- A line is another one, or this one with a carriage return at its end. -/
def Returned (line returned : Text) : Prop :=
  returned = line ∨ returned = line ++ ['\r']

variable {t : Text} {c : Char}

theorem withReturns_append (a b : Text) :
    withReturns (a ++ b) = withReturns a ++ withReturns b :=
  List.flatMap_append

theorem head?_withReturns (h : t.head? ≠ some '\n') : (withReturns t).head? = t.head? := by
  cases t with
  | nil => rfl
  | cons c t =>
    have hc : c ≠ '\n' := fun heq => h (by rw [heq]; rfl)
    simp [withReturns, hc]

theorem getLast?_withReturns (t : Text) : (withReturns t).getLast? = t.getLast? := by
  induction t using List.reverseRecOn with
  | nil => rfl
  | append_singleton t c =>
    rw [withReturns_append]
    by_cases hc : c = '\n' <;> simp [withReturns, hc]

/-- The lines of a text with carriage returns are the lines of the text, each of them with a
    carriage return or without. -/
theorem forall₂_lines_withReturns (t : Text) :
    List.Forall₂ Returned t.lines (withReturns t).lines := by
  -- The start of the current line is read already, and stands in front of the rest.
  suffices h : ∀ start : Text, '\n' ∉ start →
      List.Forall₂ Returned (start ++ t).lines (start ++ withReturns t).lines from
    h [] List.not_mem_nil
  induction t with
  | nil =>
    intro start hstart
    rw [withReturns, List.flatMap_nil, List.append_nil, lines_of_not_mem hstart]
    exact .cons (.inl rfl) .nil
  | cons c t ih =>
    intro start hstart
    by_cases hc : c = '\n'
    · subst hc
      have hreturn : '\n' ∉ start ++ ['\r'] := by simpa using hstart
      have hsplit : start ++ withReturns ('\n' :: t) =
          (start ++ ['\r']) ++ '\n' :: withReturns t := by
        simp [withReturns]
      rw [hsplit, lines_append, lines_append, lines_of_not_mem hstart, lines_of_not_mem hreturn]
      exact .cons (.inr rfl) (ih [] List.not_mem_nil)
    · have hnext : '\n' ∉ start ++ [c] := by simpa [hstart] using Ne.symm hc
      have hline := ih (start ++ [c]) hnext
      rw [List.append_assoc, List.append_assoc] at hline
      have hkeep : withReturns (c :: t) = [c] ++ withReturns t := by
        simp [withReturns, hc]
      rw [hkeep]
      exact hline

/-- A blank at the end of a line is in none of its fields. -/
theorem fields_concat (h : isBlank c) (t : Text) : (t ++ [c]).fields = t.fields := by
  rw [fields, fields, splitWhere_eq_splitOnP, splitWhere_eq_splitOnP,
    List.splitOnP_append_cons _ _ h, List.filter_append]
  simp

theorem Returned.fields_eq {line returned : Text} (h : Returned line returned) :
    line.fields = returned.fields := by
  rcases h with rfl | rfl
  · rfl
  · exact (fields_concat (by decide) line).symm

/-- A character that is not in a separator comes to the end of the last piece. -/
theorem splitText_concat {mark : Text} (ne : mark ≠ []) (hc : c ∉ mark) (t : Text) :
    ∃ front last, splitText mark t = front ++ [last] ∧
      splitText mark (t ++ [c]) = front ++ [last ++ [c]] := by
  fun_induction splitText mark t with
  | case1 =>
    have hpre : ¬ mark.isPrefixOf [c] := by
      rw [List.isPrefixOf_iff_prefix]
      intro hstart
      obtain ⟨d, hd⟩ := List.exists_mem_of_ne_nil mark ne
      exact hc (List.mem_singleton.mp (hstart.subset hd) ▸ hd)
    refine ⟨[], [], rfl, ?_⟩
    rw [List.nil_append, splitText, if_neg hpre, splitText]
    rfl
  | case2 d t hpre ih =>
    obtain ⟨front, last, hfront, hlast⟩ := ih
    have hstart := List.isPrefixOf_iff_prefix.mp hpre
    have hlength : mark.length - 1 ≤ t.length := by
      have := hstart.length_le
      rw [List.length_cons] at this
      omega
    have hpre' : mark.isPrefixOf (d :: (t ++ [c])) :=
      List.isPrefixOf_iff_prefix.mpr (hstart.trans (List.prefix_append (d :: t) [c]))
    refine ⟨[] :: front, last, by rw [hfront]; rfl, ?_⟩
    rw [List.cons_append, splitText, if_pos hpre', List.drop_append_of_le_length hlength, hlast]
    rfl
  | case3 d t hpre hnil ih => exact absurd hnil (splitText_ne_nil _ _)
  | case4 d t hpre piece pieces hpieces ih =>
    obtain ⟨front, last, hfront, hlast⟩ := ih
    have hpre' : ¬ mark.isPrefixOf (d :: (t ++ [c])) := by
      rw [List.isPrefixOf_iff_prefix] at hpre ⊢
      intro hstart
      rcases List.prefix_concat_iff.mp (show mark <+: (d :: t) ++ [c] from hstart)
        with heq | hstart
      · exact hc (heq ▸ List.mem_append_right _ List.mem_cons_self)
      · exact hpre hstart
    rw [hpieces] at hfront
    rw [List.cons_append, splitText, if_neg hpre', hlast]
    cases front with
    | nil =>
      obtain ⟨rfl, rfl⟩ := List.cons.inj hfront
      exact ⟨[], d :: piece, rfl, rfl⟩
    | cons first front =>
      obtain ⟨rfl, rfl⟩ := List.cons.inj hfront
      exact ⟨(d :: piece) :: front, last, rfl, rfl⟩

end Text

-- ════════════════════════════════════════════════════════════════════════
-- Keys and values
-- ════════════════════════════════════════════════════════════════════════

namespace KeyValue

variable {separator : Text}

/-- A carriage return at the end of a line changes neither its key nor its value. -/
theorem pair?_concat_return (hfree : '\r' ∉ separator) (line : Text) :
    pair? separator (line ++ ['\r']) = pair? separator line := by
  rw [pair?, pair?, tokens, tokens]
  cases separator with
  | nil => rw [List.isEmpty_nil, if_pos rfl, if_pos rfl, Text.fields_concat (by decide)]
  | cons c separator =>
    obtain ⟨front, last, hfront, hlast⟩ :=
      Text.splitText_concat (List.cons_ne_nil c separator) hfree line
    rw [List.isEmpty_cons, if_neg Bool.false_ne_true, if_neg Bool.false_ne_true, hfront, hlast]
    match front with
    | [] => rfl
    | [key] =>
      have hvalue : Value.parse ([] ++ last ++ ['\r']) = Value.parse last :=
        Value.parse_padded nofun (by simp [Value.isPadding_iff])
      exact congrArg (fun v => some (key.strip isKeyPadding, v)) hvalue
    | key :: value :: front => rfl

theorem block_withReturns (hfree : '\r' ∉ separator) (data : Text) :
    block separator data.withReturns = block separator data := by
  rw [block, block]
  have hlines := Text.forall₂_lines_withReturns data
  refine congrArg SortedMap.ofList (filterMap_eq_of_forall₂ hlines ?_).symm
  rintro line returned (rfl | rfl)
  · rfl
  · exact (pair?_concat_return hfree line).symm

end KeyValue

-- ════════════════════════════════════════════════════════════════════════
-- Tables
-- ════════════════════════════════════════════════════════════════════════

theorem Table.records_withReturns {columns : List Text} (hcolumns : columns ≠ []) (skip : Nat)
    {data : Text} (hhead : data.head? ≠ some '\n') :
    records columns skip data.withReturns = records columns skip data := by
  have hhead' : data.withReturns.head? ≠ some '\n' := by rwa [Text.head?_withReturns hhead]
  have hlines := List.forall₂_drop skip (Text.forall₂_lines_withReturns data)
  rw [records_eq_filterMap hcolumns, records_eq_filterMap hcolumns, Record.trimStart_of_head? hhead,
    Record.trimStart_of_head? hhead']
  refine (filterMap_eq_of_forall₂ hlines fun line returned h => ?_).symm
  rw [row?, row?, h.fields_eq]

-- ════════════════════════════════════════════════════════════════════════
-- Paired lines
-- ════════════════════════════════════════════════════════════════════════

namespace KeyRow

theorem pair_congr {header header' value value' : Text} (hheader : header.fields = header'.fields)
    (hvalue : value.fields = value'.fields) (number : Nat) :
    pair number header value = pair number header' value' := by
  rw [pair, pair, hheader, hvalue]

/-- Pairs of lines depend on the fields of the lines alone. -/
theorem pairs_congr {lines lines' : List Text}
    (h : List.Forall₂ (fun l l' => l.fields = l'.fields) lines lines') (number : Nat) :
    pairs number lines = pairs number lines' := by
  fun_induction pairs number lines generalizing lines' with
  | case1 number header value lines e hpair =>
    obtain _ | ⟨hheader, _ | ⟨hvalue, hrest⟩⟩ := h
    rw [pairs, ← pair_congr hheader hvalue, hpair]
  | case2 number header value lines r hpair ih =>
    obtain _ | ⟨hheader, _ | ⟨hvalue, hrest⟩⟩ := h
    rw [pairs, ← pair_congr hheader hvalue, hpair, ih hrest]
  | case3 lines number hshort =>
    obtain _ | ⟨hheader, _ | ⟨hvalue, hrest⟩⟩ := h
    · rfl
    · rfl
    · exact absurd rfl (hshort _ _ _)

theorem records_congr {data data' : Text}
    (h : List.Forall₂ Text.Returned (linesOf data) (linesOf data')) :
    records data = records data' := by
  have hfields := h.imp fun _ _ hline => hline.fields_eq
  change (if (linesOf data).length % 2 ≠ 0 then .error .oddLineCount else pairs 0 (linesOf data)) =
    if (linesOf data').length % 2 ≠ 0 then .error .oddLineCount else pairs 0 (linesOf data')
  rw [h.length_eq, pairs_congr hfields]

/-- A text that does not begin with a line feed and ends with one at most has, once it is trimmed,
    the same lines with carriage returns as without, but for these. -/
theorem forall₂_linesOf_withReturns {data : Text} (hhead : data.head? ≠ some '\n')
    (hend : ¬ ['\n', '\n'] <:+ data) :
    List.Forall₂ Text.Returned (linesOf data) (linesOf data.withReturns) := by
  have hhead' : data.withReturns.head? ≠ some '\n' := by rwa [Text.head?_withReturns hhead]
  have htrim : ∀ t : Text, t.head? ≠ some '\n' →
      linesOf t = (Text.stripEnd (· == '\n') t).lines := fun t ht =>
    congrArg (fun s => (Text.stripEnd (· == '\n') s).lines) (Record.trimStart_of_head? ht)
  have hlines := Text.forall₂_lines_withReturns data
  rw [htrim data hhead, htrim _ hhead']
  by_cases hlast : data.getLast? = some '\n'
  · obtain ⟨front, rfl⟩ := List.getLast?_eq_some_iff.mp hlast
    have hfront : front.getLast? ≠ some '\n' := by
      intro hfront
      obtain ⟨front', rfl⟩ := List.getLast?_eq_some_iff.mp hfront
      exact hend ⟨front', by simp⟩
    have hreturns : Text.withReturns (front ++ ['\n']) =
        (Text.withReturns front ++ ['\r']) ++ ['\n'] := by
      simp [Text.withReturns]
    have hdrop : ∀ t : Text, t.getLast? ≠ some '\n' →
        Text.stripEnd (· == '\n') (t ++ ['\n']) = t := by
      intro t ht
      rw [Text.stripEnd_eq_rdropWhile, List.rdropWhile_concat_pos _ _ _ (by rfl),
        ← Text.stripEnd_eq_rdropWhile, Record.stripEnd_of_getLast? ht]
    rw [hreturns, hdrop front hfront, hdrop _ (by simp)]
    -- The line behind the last line feed is empty in both, and is not counted.
    rw [hreturns, Text.lines_append, Text.lines_append] at hlines
    have hreverse := List.forall₂_reverse_iff.mpr hlines
    rw [List.reverse_append, List.reverse_append] at hreverse
    exact List.forall₂_reverse_iff.mp (List.forall₂_drop 1 hreverse)
  · rw [Record.stripEnd_of_getLast? hlast,
      Record.stripEnd_of_getLast? (by rwa [Text.getLast?_withReturns])]
    exact hlines

theorem records_withReturns {data : Text} (hhead : data.head? ≠ some '\n')
    (hend : ¬ ['\n', '\n'] <:+ data) : records data.withReturns = records data :=
  (records_congr (forall₂_linesOf_withReturns hhead hend)).symm

end KeyRow

-- ════════════════════════════════════════════════════════════════════════
-- Texts
-- ════════════════════════════════════════════════════════════════════════

/-- Carriage returns in front of the line feeds of a text do not change its record of keys and
    values, if the separator does not hold one; nor its table with columns, if the text does not
    begin with a line feed; nor its paired lines, accepted or refused, if moreover it ends with one
    line feed at most. -/
theorem Record.records_line_endings (data : Text) :
    (∀ separator, '\r' ∉ separator →
      KeyValue.block separator data.withReturns = KeyValue.block separator data) ∧
    (∀ columns skip, columns ≠ [] → data.head? ≠ some '\n' →
      Table.records columns skip data.withReturns = Table.records columns skip data) ∧
    (data.head? ≠ some '\n' → ¬ ['\n', '\n'] <:+ data →
      KeyRow.records data.withReturns = KeyRow.records data) :=
  ⟨fun _ hfree => KeyValue.block_withReturns hfree data,
    fun _ skip hcolumns hhead => Table.records_withReturns hcolumns skip hhead,
    KeyRow.records_withReturns⟩

example : KeyRow.records (Text.withReturns "a x\na 1\n\n".toList) = .error .oddLineCount := rfl

/-- A separator with a line feed in it and one without, a table with blank lines at its end, and two
    paired lines that are refused. -/
theorem Record.records_line_endings_samples :
    KeyValue.block [':', '\n'] "a :\r\nb:\r\n".toList =
      KeyValue.block [':', '\n'] "a :\nb:\n".toList ∧
    KeyValue.block [':'] "a: 1\r\nb\t:x".toList = KeyValue.block [':'] "a: 1\nb\t:x".toList ∧
    Table.records [['x'], ['y']] 1 "h g\r\n1 2\r\n\r\n".toList =
      Table.records [['x'], ['y']] 1 "h g\n1 2\n\n".toList ∧
    KeyRow.records "a: x\r\nb: y\r\n".toList = KeyRow.records "a: x\nb: y\n".toList := by
  refine ⟨?_, ?_, ?_, ?_⟩
  · exact (records_line_endings "a :\nb:\n".toList).1 [':', '\n'] (by decide)
  · exact (records_line_endings "a: 1\nb\t:x".toList).1 [':'] (by decide)
  · exact (records_line_endings "h g\n1 2\n\n".toList).2.1 [['x'], ['y']] 1 (List.cons_ne_nil _ _)
      (by decide)
  · exact (records_line_endings "a: x\nb: y\n".toList).2.2 (by decide) (by decide)

end Telemetry
