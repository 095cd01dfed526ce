import Mathlib.Data.List.Basic
import Telemetry.Proofs.Glob.Plain
import Telemetry.Proofs.Source.Tree

/-!
# Walks along plain patterns

A plain pattern leads from a place to as many names further as it has components, and the files that
it leads to are those of the place whose names its components accept, in the same order.

## Main definitions

- `Glob.entry` — the place of an entry
- `Glob.reach` — the places that components lead to, be there any or not

## Main statements

- `Glob.expand_plain` — a plain component selects entries by their names
- `Glob.isAlong_of_mem_reach` — names lead to every place that a plain pattern leads to
- `Glob.files_reach` — the files that a plain pattern leads to
-/

namespace Telemetry.Glob

-- ════════════════════════════════════════════════════════════════════════
-- Plain components
-- ════════════════════════════════════════════════════════════════════════

variable {c name : Text} {l l₀ : Location}

/-- A pattern without wildcards accepts nothing but its only text. -/
theorem acceptsTokens_of_literalTokens? {ts : List Token} {literal : Bool} {t : Text}
    (h : Pattern.literalTokens? ts = some name) : acceptsTokens literal ts t ↔ t = name := by
  induction ts generalizing name t with
  | nil =>
    obtain rfl : [] = name := Option.some.inj h
    exact acceptsTokens_nil_iff
  | cons token ts ih =>
    cases token with
    | char d =>
      obtain ⟨rest, hrest, rfl⟩ := Option.map_eq_some_iff.mp h
      simp only [acceptsTokens_char_iff, ih hrest, exists_eq_right]
    | _ => cases h

theorem literalTokens?_map_ofPlain (h : Pattern.literalTokens? (c.map Token.ofPlain) = some name) :
    name = c := by
  induction c generalizing name with
  | nil => exact (Option.some.inj h).symm
  | cons d c ih =>
    rcases Token.ofPlain_cases d with hd | hd | hd <;> rw [List.map_cons, hd] at h
    · obtain ⟨rest, hrest, rfl⟩ := Option.map_eq_some_iff.mp h
      rw [ih hrest]
    · cases h
    · cases h

theorem isRecursive_plainPattern (c : Text) : (plainPattern c).isRecursive = false := by
  have h : ¬ (c.map Token.ofPlain).contains .anyDirectories = true :=
    fun hmem => anyDirectories_not_mem_map c (List.contains_iff_mem.mp hmem)
  exact Bool.not_eq_true _ ▸ h

/-- A plain component that does not start with a dot leads to no dots. -/
theorem dotted_plainPattern (h : c.head? ≠ some '.') (l : Location) :
    dotted (plainPattern c) l = [] := by
  unfold dotted
  split
  · rename_i hdot
    cases c with
    | nil => cases hdot
    | cons d c =>
      have hd : Token.ofPlain d = .char '.' := (List.cons.inj hdot).1
      exact absurd (congrArg some (Token.eq_of_ofPlain_eq_char hd)) h
  · rfl

-- ════════════════════════════════════════════════════════════════════════
-- Entries
-- ════════════════════════════════════════════════════════════════════════

/-- The place of an entry of the directory at a place. -/
def entry (l : Location) (e : Text × Node) : Location :=
  ⟨entryPath l.path e.1, e.2, l.node :: l.around⟩

theorem entryPath_ne_nil (directory : Path) (h : name ≠ []) : entryPath directory name ≠ [] := by
  rw [entryPath, Path.append]
  split
  · exact h
  · split
    · exact List.append_ne_nil_of_right_ne_nil directory h
    · exact List.append_ne_nil_of_right_ne_nil directory (List.cons_ne_nil '/' name)

/-- A name that does not start with a dot leads to its entry. -/
theorem named?_eq (h : l.node.IsProper) (hne : c ≠ []) (hdot : c.head? ≠ some '.') :
    named? l c = (l.node.entries.find? fun e => e.1 == c).map (entry l) := by
  have hpath : (entryPath l.path c).isEmpty = false := by
    simpa using entryPath_ne_nil l.path hne
  have hnamed : named? l c = (l.follow c (entryPath l.path c)).toOption := by
    simp only [named?, hpath, Bool.false_eq_true, if_false]
  rw [hnamed]
  cases hfind : l.node.entries.find? fun e => e.1 == c with
  | some e =>
    obtain rfl : e.1 = c := by simpa using List.find?_some hfind
    have he := List.mem_of_find?_eq_some hfind
    rw [Location.follow_of_child? (h.isEntryName he) (h.child?_of_mem he)]
    rfl
  | none =>
    have hchild : l.node.child? c = none := by rw [Node.child?, hfind]; rfl
    obtain ⟨path, node, around⟩ := l
    cases node with
    | file bytes => rfl
    | directory es =>
      have hcurrent : c ≠ ['.'] := fun h => hdot (h ▸ rfl)
      have hparent : c ≠ ['.', '.'] := fun h => hdot (h ▸ rfl)
      simp only [Location.follow, if_neg (not_or.mpr ⟨hne, hcurrent⟩), if_neg hparent]
      rw [hchild]
      rfl

/-- The places that components lead to from a place, which is the only one if there are no
    components. -/
def reach (ps : List Pattern) (l : Location) : List Location :=
  if ps.isEmpty then [l] else expand ps l

/-- A plain component selects the entries of a directory whose names it accepts, with wildcards or
    without. -/
theorem expand_plain (h : l.node.IsProper) (hne : c ≠ []) (hdot : c.head? ≠ some '.')
    (ps : List Pattern) :
    expand (plainPattern c :: ps) l = l.node.entries.flatMap fun e =>
      if (plainPattern c).accepts false e.1 then reach ps (entry l e) else [] := by
  rw [expand.eq_def]
  cases hliteral : (plainPattern c).literal? with
  | none =>
    simp only [hliteral, isRecursive_plainPattern, Bool.false_eq_true, if_false,
      dotted_plainPattern hdot, List.flatMap_nil, List.nil_append, children, List.flatMap_map]
    rfl
  | some name =>
    obtain rfl := literalTokens?_map_ofPlain hliteral
    have haccepts : ∀ n, (plainPattern name).accepts false n = true ↔ n = name :=
      fun n => acceptsTokens_of_literalTokens? hliteral
    simp only [hliteral, haccepts]
    rw [SortedMap.flatMap_ite_key h.keysIncrease name fun e => reach ps (entry l e),
      named?_eq h hne hdot]
    cases l.node.entries.find? fun e => e.1 == name <;> rfl

-- ════════════════════════════════════════════════════════════════════════
-- Names
-- ════════════════════════════════════════════════════════════════════════

variable {absolute : Bool} {names : List Text} {cs : List Text}

theorem entryPath_along (h : ∀ name ∈ names, IsEntryName name) (absolute : Bool) (name : Text) :
    entryPath (.along absolute names) name = .ofNames absolute (names ++ [name]) := by
  by_cases ne : names = []
  · subst ne
    have hname : Path.ofNames absolute [name] = (if absolute then ['/'] else []) ++ name := by
      rw [Path.ofNames, Text.join_singleton]
    rw [List.nil_append, hname]
    cases absolute <;> rfl
  · have hhere : isHere (.ofNames absolute names) = false := by
      rw [isHere, Path.components_ofNames h ne]
      cases names with
      | nil => exact absurd rfl ne
      | cons first rest => cases absolute <;> rfl
    rw [Path.along_of_ne_nil absolute ne, entryPath, if_neg (by simp [hhere]),
      Path.append_ofNames h ne]

/-- The place of an entry is the one that one more name leads to. -/
theorem isAlong_entry (h : l₀.IsAlong absolute names l) {e : Text × Node}
    (he : e ∈ l.node.entries) : l₀.IsAlong absolute (names ++ [e.1]) (entry l e) := by
  have hpath : entryPath l.path e.1 = .ofNames absolute (names ++ [e.1]) := by
    rw [h.path, entryPath_along h.isEntryName]
  rw [entry, hpath]
  exact h.concat he

/-- A plain pattern leads to places that names lead to, as many as it has components. -/
theorem isAlong_of_mem_reach (hcs : ∀ c ∈ cs, c ≠ [] ∧ c.head? ≠ some '.')
    (h : l₀.IsAlong absolute names l) {l' : Location} (hl' : l' ∈ reach (cs.map plainPattern) l) :
    ∃ names', l₀.IsAlong absolute (names ++ names') l' ∧ names'.length = cs.length := by
  induction cs generalizing l names with
  | nil =>
    obtain rfl := List.mem_singleton.mp hl'
    exact ⟨[], by rwa [List.append_nil], rfl⟩
  | cons c cs ih =>
    obtain ⟨⟨hne, hdot⟩, hrest⟩ := List.forall_mem_cons.mp hcs
    have hmem : l' ∈ expand (plainPattern c :: cs.map plainPattern) l := hl'
    rw [expand_plain h.proper hne hdot] at hmem
    obtain ⟨e, he, hmem⟩ := List.mem_flatMap.mp hmem
    split at hmem
    · obtain ⟨names', halong, hlength⟩ := ih hrest (isAlong_entry h he) hmem
      refine ⟨e.1 :: names', ?_, by rw [List.length_cons, List.length_cons, hlength]⟩
      rwa [List.append_assoc, List.singleton_append] at halong
    · cases hmem

/-- Components accept no files but those below a place, if there are any components. -/
theorem filter_files {ps : List Pattern} (ne : ps ≠ []) (n : Node) :
    (n.files.filter fun f => acceptsNames ps f.1) =
      (Node.filesIn n.entries).filter fun f => acceptsNames ps f.1 := by
  cases ps with
  | nil => exact absurd rfl ne
  | cons p ps => cases n <;> rfl

/-- The files that a plain pattern leads to from a place are those below the place whose names its
    components accept, in the order of these names. -/
theorem files_reach (hcs : ∀ c ∈ cs, c ≠ [] ∧ c.head? ≠ some '.')
    (h : l₀.IsAlong absolute names l) (ne : names ≠ [] ∨ cs ≠ []) :
    ((reach (cs.map plainPattern) l).filter fun l' => !l'.node.isDirectory).map Location.path =
      (l.node.files.filter fun f => acceptsNames (cs.map plainPattern) f.1).map fun f =>
        .ofNames absolute (names ++ f.1) := by
  induction cs generalizing l names with
  | nil =>
    have hpath : l.path = .ofNames absolute names :=
      h.path.trans (Path.along_of_ne_nil absolute (ne.resolve_right fun hne => hne rfl))
    cases hnode : l.node with
    | file bytes =>
      have hempty : acceptsNames [] [] = true := rfl
      simp [reach, hnode, Node.isDirectory, Node.files, hempty, hpath]
    | directory es =>
      have hnone : (Node.filesIn es).filter (fun f => acceptsNames [] f.1) = [] := by
        refine List.filter_eq_nil_iff.mpr fun f hf => ?_
        rw [acceptsNames_nil_iff]
        exact Node.ne_nil_of_mem_filesIn hf
      simp [reach, hnode, Node.isDirectory, Node.files, hnone]
  | cons c cs ih =>
    obtain ⟨⟨hne, hdot⟩, hrest⟩ := List.forall_mem_cons.mp hcs
    have hreach : reach ((c :: cs).map plainPattern) l =
        expand (plainPattern c :: cs.map plainPattern) l := rfl
    have hcomponents : (c :: cs).map plainPattern ≠ [] := List.cons_ne_nil _ _
    rw [hreach, expand_plain h.proper hne hdot, filter_files hcomponents, Node.filesIn_eq_flatMap,
      List.filter_flatMap, List.filter_flatMap, List.map_flatMap, List.map_flatMap]
    refine List.flatMap_congr fun e he => ?_
    rw [List.filter_map, List.map_map]
    by_cases haccepts : (plainPattern c).accepts false e.1 = true
    · rw [if_pos haccepts, ih hrest (isAlong_entry h he) (.inl (by simp))]
      simp [Function.comp_def, acceptsNames, haccepts, entry]
    · rw [if_neg haccepts]
      simp [Function.comp_def, acceptsNames, haccepts]

end Telemetry.Glob
