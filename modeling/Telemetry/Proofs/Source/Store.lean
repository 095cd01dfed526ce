import Telemetry.Proofs.Glob.Matching
import Telemetry.Proofs.SortedMap
import Telemetry.Source.FlatStore

/-!
# What a flat store remembers

A store is made by adding files, one after the other. Files under different spellings of one path
are the same file. Of all that has been added under a path, a store remembers the first spelling and
the last contents: the former is what patterns are held against and what is listed, the latter is
what is read. The order in which different files were added leaves no trace.

## Main definitions

- `FlatStore.ofFiles` — the store to which files have been added
- `FlatStore.IsFirstSpelling`, `FlatStore.IsLastContents` — what is remembered of a path

## Main statements

- `FlatStore.get?_add` — what is remembered after one more file
- `FlatStore.get?_ofFiles` — what is remembered of all files
- `FlatStore.read_ofFiles_eq_ok_iff`, `FlatStore.read_ofFiles_eq_error_iff` — what is read
- `FlatStore.mem_paths_ofFiles_iff`, `FlatStore.pairwise_paths_ofFiles` — what is listed
- `FlatStore.paths_ofFiles`, `FlatStore.ofFiles_of_perm` — the order in which files are added does
  not matter
- `FlatStore.answers_ofFiles` — the answers of a store
-/

namespace Telemetry.FlatStore

/-- The store to which files have been added, one after the other. -/
def ofFiles (fs : List (Path × Text)) : FlatStore :=
  fs.foldl (fun s f => s.add f.1 f.2) empty

/-- A path is how its file was spelled when it was first added. -/
def IsFirstSpelling (fs : List (Path × Text)) (p : Path) : Prop :=
  ∃ before contents after, fs = before ++ (p, contents) :: after ∧
    ∀ f ∈ before, f.1.components ≠ p.components

/-- The file of a path had some contents when it was last added, under whatever spelling. -/
def IsLastContents (fs : List (Path × Text)) (p : Path) (contents : Text) : Prop :=
  ∃ before q after, fs = before ++ (q, contents) :: after ∧ q.components = p.components ∧
    ∀ f ∈ after, f.1.components ≠ p.components

-- ════════════════════════════════════════════════════════════════════════
-- What is remembered
-- ════════════════════════════════════════════════════════════════════════

/-- Whether a file is the one of some components. -/
def isAt (key : List Component) (f : Path × Text) : Bool :=
  decide (f.1.components = key)

variable {fs fs' : List (Path × Text)} {key : List Component} {p : Path}

/-- One more file is remembered with its contents, under the spelling that is remembered of it
    already if there is one. -/
theorem get?_add (s : FlatStore) (p : Path) (contents : Text) (key : List Component) :
    (s.add p contents).files.get? key =
      if key = p.components then
        some ⟨((s.files.get? p.components).map StoredFile.path).getD p, contents⟩
      else s.files.get? key :=
  SortedMap.get?_insert _ _ _ _

theorem find?_isAt_eq_some_iff {first : Path × Text} :
    fs.find? (isAt key) = some first ↔ first.1.components = key ∧
      ∃ before after, fs = before ++ first :: after ∧ ∀ f ∈ before, f.1.components ≠ key := by
  rw [List.find?_eq_some_iff_append]
  simp only [isAt, decide_eq_true_eq, Bool.not_eq_true', decide_eq_false_iff_not, ne_eq]

theorem find?_reverse_isAt_eq_some_iff {last : Path × Text} :
    fs.reverse.find? (isAt key) = some last ↔ last.1.components = key ∧
      ∃ before after, fs = before ++ last :: after ∧ ∀ f ∈ after, f.1.components ≠ key := by
  rw [find?_isAt_eq_some_iff]
  refine and_congr_right fun _ => ⟨?_, ?_⟩
  · rintro ⟨later, earlier, h, hlater⟩
    refine ⟨earlier.reverse, later.reverse, ?_, fun f hf => hlater f (List.mem_reverse.mp hf)⟩
    rw [← List.reverse_reverse fs, h]
    simp
  · rintro ⟨before, after, rfl, hafter⟩
    exact ⟨after.reverse, before.reverse, by simp, fun f hf => hafter f (List.mem_reverse.mp hf)⟩

theorem find?_isAt_eq_none_iff :
    fs.find? (isAt key) = none ↔ ∀ f ∈ fs, f.1.components ≠ key := by
  simp only [List.find?_eq_none, isAt, decide_eq_true_eq, ne_eq]

/-- There is a first file under some components exactly if there is a last one. -/
theorem exists_find?_reverse_isAt {first : Path × Text} (h : fs.find? (isAt key) = some first) :
    ∃ last, fs.reverse.find? (isAt key) = some last := by
  refine Option.ne_none_iff_exists'.mp fun hnone => ?_
  rw [find?_isAt_eq_none_iff] at hnone
  have hfirst := List.mem_reverse.mpr (List.mem_of_find?_eq_some h)
  exact hnone first hfirst (find?_isAt_eq_some_iff.mp h).1

/-- Of the files under some components the first gives the spelling and the last the contents. -/
theorem get?_ofFiles (fs : List (Path × Text)) (key : List Component) :
    (ofFiles fs).files.get? key =
      (fs.find? (isAt key)).bind fun first =>
        (fs.reverse.find? (isAt key)).map fun last => ⟨first.1, last.2⟩ := by
  induction fs using List.reverseRecOn with
  | nil => rfl
  | append_singleton fs f ih =>
    have hstep : ofFiles (fs ++ [f]) = (ofFiles fs).add f.1 f.2 := by
      rw [ofFiles, List.foldl_append]
      rfl
    rw [hstep, get?_add, List.find?_append, List.reverse_concat]
    simp only [List.find?_cons, List.find?_nil]
    by_cases hkey : key = f.1.components
    · subst hkey
      have hf : isAt f.1.components f = true := decide_eq_true rfl
      rw [if_pos rfl, ih, hf]
      cases hfirst : fs.find? (isAt f.1.components) with
      | none => rfl
      | some first =>
        obtain ⟨last, hlast⟩ := exists_find?_reverse_isAt hfirst
        rw [hlast]
        rfl
    · have hf : isAt key f = false := decide_eq_false fun h => hkey h.symm
      rw [if_neg hkey, ih, hf, Option.or_none]

theorem get?_ofFiles_eq_some_iff {file : StoredFile} :
    (ofFiles fs).files.get? key = some file ↔
      file.path.components = key ∧ IsFirstSpelling fs file.path ∧
        IsLastContents fs file.path file.contents := by
  rw [get?_ofFiles]
  constructor
  · intro h
    obtain ⟨first, hfirst, h⟩ := Option.bind_eq_some_iff.mp h
    obtain ⟨last, hlast, rfl⟩ := Option.map_eq_some_iff.mp h
    obtain ⟨rfl, before, after, hfs, hbefore⟩ := find?_isAt_eq_some_iff.mp hfirst
    obtain ⟨hkey, before', after', hfs', hafter⟩ := find?_reverse_isAt_eq_some_iff.mp hlast
    exact ⟨rfl, ⟨before, first.2, after, hfs, hbefore⟩, before', last.1, after', hfs', hkey, hafter⟩
  · rintro ⟨rfl, ⟨before, contents, after, hfs, hbefore⟩, before', q, after', hfs', hq, hafter⟩
    have hfirst := find?_isAt_eq_some_iff.mpr ⟨rfl, before, after, hfs, hbefore⟩
    have hlast := find?_reverse_isAt_eq_some_iff.mpr ⟨hq, before', after', hfs', hafter⟩
    rw [hfirst, hlast]
    rfl

theorem get?_ofFiles_eq_none_iff :
    (ofFiles fs).files.get? key = none ↔ ∀ f ∈ fs, f.1.components ≠ key := by
  rw [← find?_isAt_eq_none_iff, get?_ofFiles]
  cases hfirst : fs.find? (isAt key) with
  | none => simp
  | some first =>
    obtain ⟨last, hlast⟩ := exists_find?_reverse_isAt hfirst
    simp [hlast]

-- ════════════════════════════════════════════════════════════════════════
-- What is read
-- ════════════════════════════════════════════════════════════════════════

/-- The last contents of a path are what is read. -/
theorem read_ofFiles_eq_ok_iff {contents : Text} :
    (ofFiles fs).read p = .ok contents ↔ IsLastContents fs p contents := by
  unfold read
  constructor
  · intro h
    split at h
    · rename_i file hfile
      obtain ⟨hkey, -, before, q, after, hfs, hq, hafter⟩ := get?_ofFiles_eq_some_iff.mp hfile
      obtain rfl := Except.ok.inj h
      rw [hkey] at hq hafter
      exact ⟨before, q, after, hfs, hq, hafter⟩
    · cases h
  · rintro ⟨before, q, after, hfs, hq, hafter⟩
    have hlast := find?_reverse_isAt_eq_some_iff.mpr ⟨hq, before, after, hfs, hafter⟩
    cases hfile : (ofFiles fs).files.get? p.components with
    | none =>
      rw [get?_ofFiles_eq_none_iff] at hfile
      exact absurd hq (hfile (q, contents) (by simp [hfs]))
    | some file =>
      rw [get?_ofFiles, hlast] at hfile
      obtain ⟨first, -, h⟩ := Option.bind_eq_some_iff.mp hfile
      obtain rfl := Option.some.inj h
      rfl

/-- A path under which nothing has been added is not found, and no other error is reported. -/
theorem read_ofFiles_eq_error_iff {e : ReadError} :
    (ofFiles fs).read p = .error e ↔
      (∀ f ∈ fs, f.1.components ≠ p.components) ∧
        e = ⟨.notFound, "no such file: " ++ String.ofList p⟩ := by
  rw [← get?_ofFiles_eq_none_iff, read]
  cases (ofFiles fs).files.get? p.components with
  | none => simp [eq_comm]
  | some file => simp

-- ════════════════════════════════════════════════════════════════════════
-- What is listed
-- ════════════════════════════════════════════════════════════════════════

theorem mem_toList_ofFiles {e : List Component × StoredFile} (h : e ∈ (ofFiles fs).files.toList) :
    e.2.path.components = e.1 :=
  (get?_ofFiles_eq_some_iff.mp ((SortedMap.get?_eq_some_iff _).mpr h)).1

/-- The first spellings are listed. -/
theorem mem_paths_ofFiles_iff : p ∈ (ofFiles fs).paths ↔ IsFirstSpelling fs p := by
  rw [paths, List.mem_map]
  constructor
  · rintro ⟨e, he, rfl⟩
    exact (get?_ofFiles_eq_some_iff.mp ((SortedMap.get?_eq_some_iff _).mpr he)).2.1
  · intro hfirst
    cases hfile : (ofFiles fs).files.get? p.components with
    | none =>
      obtain ⟨before, contents, after, rfl, -⟩ := hfirst
      rw [get?_ofFiles_eq_none_iff] at hfile
      exact absurd rfl (hfile (p, contents) (by simp))
    | some file =>
      obtain ⟨before, contents, after, hfs, hbefore⟩ := hfirst
      have hfind := find?_isAt_eq_some_iff.mpr ⟨rfl, before, after, hfs, hbefore⟩
      refine ⟨(p.components, file), (SortedMap.get?_eq_some_iff _).mp hfile, ?_⟩
      rw [get?_ofFiles, hfind] at hfile
      obtain ⟨last, -, rfl⟩ := Option.map_eq_some_iff.mp hfile
      rfl

/-- Whatever is listed can be read. -/
theorem exists_read_of_mem_paths (h : p ∈ (ofFiles fs).paths) :
    ∃ contents, (ofFiles fs).read p = .ok contents := by
  obtain ⟨e, he, rfl⟩ := List.mem_map.mp h
  have hfile : (ofFiles fs).files.get? e.2.path.components = some e.2 := by
    rw [mem_toList_ofFiles he]
    exact (SortedMap.get?_eq_some_iff _).mpr he
  exact ⟨e.2.contents, by rw [read, hfile]⟩

/-- Paths are listed in their order, and no two of them are the same. -/
theorem pairwise_paths_ofFiles (fs : List (Path × Text)) :
    (ofFiles fs).paths.Pairwise fun p q => p.components < q.components := by
  rw [paths, List.pairwise_map]
  refine (ofFiles fs).files.sorted.imp_of_mem fun {a b} ha hb hlt => ?_
  rw [mem_toList_ofFiles ha, mem_toList_ofFiles hb]
  exact hlt

-- ════════════════════════════════════════════════════════════════════════
-- Different files
-- ════════════════════════════════════════════════════════════════════════

/-- A file as an entry of a store, under the components of its path. -/
def entryOf (f : Path × Text) : List Component × StoredFile :=
  (f.1.components, ⟨f.1, f.2⟩)

theorem files_foldl_add (s : FlatStore) (hnodup : (fs.map fun f => f.1.components).Nodup)
    (hnew : ∀ f ∈ fs, s.files.get? f.1.components = none) :
    (fs.foldl (fun s f => s.add f.1 f.2) s).files =
      (fs.map entryOf).foldl (fun m e => m.insert e.1 e.2) s.files := by
  induction fs generalizing s with
  | nil => rfl
  | cons f fs ih =>
    obtain ⟨hfirst, hrest⟩ := List.nodup_cons.mp hnodup
    obtain ⟨hnone, hnew⟩ := List.forall_mem_cons.mp hnew
    have hadd : (s.add f.1 f.2).files = s.files.insert f.1.components ⟨f.1, f.2⟩ := by
      simp only [add, hnone, Option.map_none, Option.getD_none]
    rw [List.foldl_cons, List.map_cons, List.foldl_cons, ih _ hrest, hadd]
    · rfl
    · intro f' hf'
      have hne : f'.1.components ≠ f.1.components :=
        fun heq => hfirst (List.mem_map.mpr ⟨f', hf', heq⟩)
      rw [hadd, SortedMap.get?_insert, if_neg hne, hnew f' hf']

theorem files_ofFiles (hnodup : (fs.map fun f => f.1.components).Nodup) :
    (ofFiles fs).files = SortedMap.ofList (fs.map entryOf) :=
  files_foldl_add empty hnodup fun _ _ => rfl

/-- Files with different paths can be added in any order; the paths come in their own one. -/
theorem paths_ofFiles (hperm : fs.Perm fs')
    (hsorted : fs'.Pairwise fun f f' => f.1.components < f'.1.components) :
    (ofFiles fs).paths = fs'.map Prod.fst := by
  have hnodup' : (fs'.map fun f => f.1.components).Nodup :=
    List.pairwise_map.mpr (hsorted.imp KeyOrder.ne_of_lt)
  have hnodup : (fs.map fun f => f.1.components).Nodup := (hperm.map _).nodup_iff.mpr hnodup'
  let files : SortedMap (List Component) StoredFile :=
    ⟨fs'.map entryOf, List.pairwise_map.mpr hsorted⟩
  have hfiles : (ofFiles fs).files = files := by
    rw [files_ofFiles hnodup]
    exact SortedMap.ofList_of_perm (hperm.map entryOf)
  rw [paths, hfiles]
  exact List.map_map

/-- Files with different paths make the same store in any order. -/
theorem ofFiles_of_perm (hperm : fs.Perm fs')
    (hdistinct : fs.Pairwise fun f f' => f.1.components ≠ f'.1.components) :
    ofFiles fs = ofFiles fs' := by
  have hnodup : (fs.map fun f => f.1.components).Nodup := List.pairwise_map.mpr hdistinct
  have hnodup' : (fs'.map fun f => f.1.components).Nodup := (hperm.map _).nodup_iff.mp hnodup
  have hkeys : ((fs.map entryOf).map Prod.fst).Nodup := by
    rw [List.map_map]
    exact hnodup
  have hfiles : (ofFiles fs).files = (ofFiles fs').files := by
    rw [files_ofFiles hnodup, files_ofFiles hnodup']
    exact SortedMap.ofList_eq_of_perm hkeys (hperm.map entryOf)
  exact congrArg FlatStore.mk hfiles

-- ════════════════════════════════════════════════════════════════════════
-- Answers
-- ════════════════════════════════════════════════════════════════════════

/-- A store reads the last contents of a path, however it was spelled, and reports any other path as
    not found. To a pattern it answers with the first spellings that match it, in the order of paths
    and without repetition, all of which it can read. Different files can be added in any order. -/
theorem answers_ofFiles :
    (∀ fs p,
      (∀ contents, (ofFiles fs).read p = .ok contents ↔ IsLastContents fs p contents) ∧
        ∀ e, (ofFiles fs).read p = .error e ↔
          (∀ f ∈ fs, f.1.components ≠ p.components) ∧
            e = ⟨.notFound, "no such file: " ++ String.ofList p⟩) ∧
    (∀ fs pattern g, Glob.Pattern.parse pattern = .ok g →
      ∃ paths, (ofFiles fs).glob pattern = .ok paths ∧
        paths.Pairwise (fun p q => p.components < q.components) ∧
        (∀ p, p ∈ paths ↔ IsFirstSpelling fs p ∧ g.Matches p) ∧
        ∀ p ∈ paths, ∃ contents, (ofFiles fs).read p = .ok contents) ∧
    ∀ fs fs' : List (Path × Text), fs.Perm fs' →
      fs.Pairwise (fun f f' => f.1.components ≠ f'.1.components) →
        (∀ p, (ofFiles fs).read p = (ofFiles fs').read p) ∧
          ∀ pattern, (ofFiles fs).glob pattern = (ofFiles fs').glob pattern := by
  refine ⟨fun fs p => ⟨fun contents => read_ofFiles_eq_ok_iff, fun e => read_ofFiles_eq_error_iff⟩,
    fun fs pattern g hg => ?_, fun fs fs' hperm hdistinct => ?_⟩
  · refine ⟨(ofFiles fs).paths.filter (g.accepts true), by rw [glob, hg]; rfl,
      (pairwise_paths_ofFiles fs).filter _, fun p => ?_, fun p hp => ?_⟩
    · rw [List.mem_filter, mem_paths_ofFiles_iff, Glob.Pattern.accepts_iff_matches]
    · exact exists_read_of_mem_paths (List.mem_filter.mp hp).1
  · rw [ofFiles_of_perm hperm hdistinct]
    exact ⟨fun _ => rfl, fun _ => rfl⟩

/-- A file that is added again under another spelling is read with its new contents, but it is held
    against patterns under its old spelling, in which a star does not stand for the second slash. -/
theorem answers_ofFiles_two_spellings :
    let fs : List (Path × Text) := [("a//b".toList, ['1']), (['c'], ['2']), ("a/b".toList, ['3'])]
    let gs : List (Path × Text) := [(['c'], ['2']), ("a//b".toList, ['1'])]
    (ofFiles fs).read "a/./b".toList = .ok ['3'] ∧
      (∃ paths, (ofFiles fs).glob "a/*".toList = .ok paths ∧ "a//b".toList ∉ paths) ∧
      (∃ paths, (ofFiles fs).glob "a//*".toList = .ok paths ∧ "a//b".toList ∈ paths) ∧
      ∀ p, (ofFiles gs).read p = (ofFiles gs.reverse).read p := by
  intro fs gs
  obtain ⟨hread, hglob, hperm⟩ := answers_ofFiles
  have hfirst : IsFirstSpelling fs "a//b".toList := ⟨[], ['1'], _, rfl, nofun⟩
  have htokens : ∀ pattern : Text, '[' ∉ pattern → ¬ ['*', '*'] <:+: pattern →
      Glob.Pattern.parse pattern = .ok ⟨pattern.map Glob.Token.ofPlain⟩ := fun _ =>
    Glob.Pattern.parse_of_plain
  refine ⟨?_, ?_, ?_, (hperm gs gs.reverse (List.reverse_perm gs).symm (by decide)).1⟩
  · exact ((hread fs _).1 _).mpr ⟨fs.dropLast, "a/b".toList, [], rfl, rfl, nofun⟩
  · have hpattern := htokens "a/*".toList (by decide) (by decide)
    obtain ⟨paths, hpaths, -, hmem, -⟩ := hglob fs _ _ hpattern
    refine ⟨paths, hpaths, fun h => ?_⟩
    have hmatches := Glob.Pattern.accepts_iff_matches.mpr ((hmem _).mp h).2
    exact absurd hmatches (by decide)
  · obtain ⟨paths, hpaths, -, hmem, -⟩ :=
      hglob fs _ _ (htokens "a//*".toList (by decide) (by decide))
    exact ⟨paths, hpaths, (hmem _).mpr ⟨hfirst, Glob.Pattern.accepts_iff_matches.mp (by decide)⟩⟩

end Telemetry.FlatStore
