import Telemetry.Proofs.Glob.Walk
import Telemetry.Proofs.Source.Store

/-!
# Agreement of the two sources

A tree answers a plain pattern as a store does that holds the files of the tree without its
directories. The tree is walked component by component, and the store holds whole paths against the
pattern.

## Main definitions

- `FileTree.filesUnder` — the files of a tree under their absolute or under their relative paths
- `FileTree.isFile` — whether a path leads to a file

## Main statements

- `FileTree.mem_filesUnder_iff` — the files of a tree are those that can be read from it
- `FileTree.glob_filesUnder` — the files among the paths in a tree that match a plain pattern are
  the answer of a store with the files of the tree
-/

namespace Telemetry

-- ════════════════════════════════════════════════════════════════════════
-- Stores
-- ════════════════════════════════════════════════════════════════════════

namespace FlatStore

theorem glob_of_plain (s : FlatStore) {pattern : Text} (h : Glob.IsPlain pattern) :
    s.glob pattern = .ok (s.paths.filter ((Glob.plainPattern pattern).accepts true)) := by
  rw [glob, Glob.Pattern.parse_of_plain h.no_class h.single]
  rfl

end FlatStore

-- ════════════════════════════════════════════════════════════════════════
-- The files of a tree
-- ════════════════════════════════════════════════════════════════════════

namespace FileTree

/-- The files of a tree with their contents: all of them under their absolute paths, or those below
    the working directory under their paths from there. Only the paths of one kind are held against
    a pattern, which starts at the root or does not. -/
def filesUnder (t : FileTree) (absolute : Bool) : List (Path × Text) :=
  match t.anchor absolute with
  | .error _ => []
  | .ok l => (Node.filesIn l.node.entries).map fun f =>
      (.ofNames absolute f.1, Utf8.decodeLossy f.2)

/-- Whether a path leads to a file. -/
def isFile (t : FileTree) (p : Path) : Bool :=
  match t.locate p with
  | .error _ => false
  | .ok l => !l.node.isDirectory

variable {t : FileTree} {absolute : Bool}

/-- The files of a tree are in the order of their paths. -/
theorem pairwise_filesUnder (ht : t.root.IsProper) (absolute : Bool) :
    (t.filesUnder absolute).Pairwise fun f f' => f.1.components < f'.1.components := by
  rw [filesUnder]
  cases hl : t.anchor absolute with
  | error e => exact List.Pairwise.nil
  | ok l =>
    have hnode := (isProper_anchor ht hl).node
    have hcomponents : ∀ f ∈ Node.filesIn l.node.entries,
        (Path.ofNames absolute f.1).components =
          (if absolute then [.root] else []) ++ f.1.map .normal := fun f hf =>
      Path.components_ofNames (hnode.isEntryName_of_mem_filesIn hf)
        (Node.ne_nil_of_mem_filesIn hf) absolute
    refine List.pairwise_map.mpr (hnode.keysIncrease_filesIn.imp_of_mem ?_)
    intro f f' hf hf' hlt
    have hnames := Component.map_normal_lt hlt
    rw [hcomponents f hf, hcomponents f' hf']
    cases absolute with
    | true => exact List.cons_lt_cons_iff.mpr (.inr ⟨rfl, hnames⟩)
    | false => exact hnames

/-- The files of a tree are those that can be read from it along names, with what is read. -/
theorem mem_filesUnder_iff (ht : t.root.IsProper) {p : Path} {contents : Text} :
    (p, contents) ∈ t.filesUnder absolute ↔
      ∃ names, names ≠ [] ∧ (∀ name ∈ names, IsEntryName name) ∧ p = .ofNames absolute names ∧
        t.read p = .ok contents := by
  rw [filesUnder, read_eq_ok_iff]
  cases hl : t.anchor absolute with
  | error e =>
    constructor
    · exact nofun
    · rintro ⟨names, ne, hnames, rfl, l, bytes, hlocate, -, -⟩
      rw [t.locate_ofNames hnames ne, hl] at hlocate
      cases hlocate
  | ok l =>
    have hnode := (isProper_anchor ht hl).node
    constructor
    · intro h
      obtain ⟨f, hf, heq⟩ := List.mem_map.mp h
      obtain ⟨rfl, rfl⟩ := Prod.mk.inj heq
      have ne := Node.ne_nil_of_mem_filesIn hf
      have hnames := hnode.isEntryName_of_mem_filesIn hf
      have hfiles := (Node.mem_files_iff_mem_filesIn ne).mpr hf
      obtain ⟨around, hfile⟩ := (Location.followAll_file_iff hnode hnames).mpr hfiles
      exact ⟨f.1, ne, hnames, rfl, _, f.2, (locate_of_anchor hl hnames ne).trans hfile, rfl, rfl⟩
    · rintro ⟨names, ne, hnames, rfl, ⟨path, node, around⟩, bytes, hlocate, rfl, rfl⟩
      rw [locate_of_anchor hl hnames ne] at hlocate
      obtain rfl : path = .ofNames absolute names := Location.path_of_followAll hlocate
      have hfiles := (Location.followAll_file_iff hnode hnames).mp ⟨around, hlocate⟩
      exact List.mem_map.mpr ⟨(names, bytes), (Node.mem_files_iff_mem_filesIn ne).mp hfiles, rfl⟩

end FileTree

-- ════════════════════════════════════════════════════════════════════════
-- Agreement
-- ════════════════════════════════════════════════════════════════════════

namespace Glob

variable {pattern : Text}

theorem IsPlain.forall_components (h : IsPlain pattern) :
    ∀ c ∈ Text.splitChar '/' (body pattern), c ≠ [] ∧ c.head? ≠ some '.' :=
  fun c hc => ⟨h.ne_nil c hc, h.no_dot c hc⟩

/-- As a whole, a plain pattern accepts the paths along names that its components accept, if they
    start where it starts. -/
theorem accepts_ofNames {names : List Text} (hnames : ∀ name ∈ names, IsEntryName name)
    (ne : names ≠ []) :
    (plainPattern pattern).accepts true (Path.ofNames (plainScope pattern).absolute names) =
      acceptsNames (plainScope pattern).components names := by
  have hbody : acceptsTokens true ((body pattern).map Token.ofPlain) (Text.join ['/'] names) =
      acceptsNames (plainScope pattern).components names := by
    have hfree : ∀ c ∈ Text.splitChar '/' (body pattern), '/' ∉ c :=
      fun _ => Text.not_mem_of_mem_splitChar
    have hjoin := acceptsTokens_join_join hfree (Text.splitWhere_ne_nil _ _)
      (fun name hname => (hnames name hname).no_slash) ne
    rwa [Text.join_splitChar] at hjoin
  rw [Pattern.accepts, plainPattern, ← hbody]
  by_cases habsolute : pattern.head? = some '/'
  · obtain ⟨t, rfl⟩ := List.head?_eq_some_iff.mp habsolute
    have htokens : ('/' :: t).map Token.ofPlain = .char '/' :: t.map Token.ofPlain := rfl
    simp [htokens, plainScope, Path.ofNames, acceptsTokens, body]
  · have hrelative : (plainScope pattern).absolute = false := decide_eq_false habsolute
    rw [hrelative, body_of_head?_ne habsolute]
    rfl

end Glob

namespace FileTree

open Glob (IsPlain acceptsNames plainPattern plainScope reach)

variable {t : FileTree} {pattern : Text}

/-- The paths of the files in a tree that a plain pattern accepts as a whole. -/
theorem filter_filesUnder (ht : t.root.IsProper) {l : Location}
    (hl : t.anchor (plainScope pattern).absolute = .ok l) :
    ((t.filesUnder (plainScope pattern).absolute).map Prod.fst).filter
        ((plainPattern pattern).accepts true) =
      ((Node.filesIn l.node.entries).filter fun f =>
        acceptsNames (plainScope pattern).components f.1).map fun f =>
          Path.ofNames (plainScope pattern).absolute f.1 := by
  have hnode := (isProper_anchor ht hl).node
  simp only [filesUnder, hl, List.map_map, List.filter_map, Function.comp_def]
  congr 1
  refine List.filter_congr fun f hf => ?_
  exact Glob.accepts_ofNames (hnode.isEntryName_of_mem_filesIn hf)
    (Node.ne_nil_of_mem_filesIn hf)

/-- The paths of the files that the components of a plain pattern lead to in a tree. -/
theorem filter_expand (ht : t.root.IsProper) (hpattern : IsPlain pattern) {l : Location}
    (hl : t.anchor (plainScope pattern).absolute = .ok l) :
    ((t.expand (plainScope pattern)).map Location.path).filter t.isFile =
      ((Node.filesIn l.node.entries).filter fun f =>
        acceptsNames (plainScope pattern).components f.1).map fun f =>
          Path.ofNames (plainScope pattern).absolute f.1 := by
  have hpieces : Text.splitChar '/' (Glob.body pattern) ≠ [] := Text.splitWhere_ne_nil _ _
  have hcomponents : ¬ (plainScope pattern).components.isEmpty = true := by
    simpa [Glob.plainScope] using hpieces
  have halong : l.IsAlong (plainScope pattern).absolute [] l :=
    .nil (path_of_anchor hl) (isProper_anchor ht hl)
  have hexpand : t.expand (plainScope pattern) = reach (plainScope pattern).components l := by
    have hstart : t.start (plainScope pattern) = .ok l := hl
    rw [expand, hstart, Glob.reach, if_neg hcomponents]
    exact List.filter_eq_self.mpr fun _ _ => rfl
  have hfile : ∀ l' ∈ reach (plainScope pattern).components l,
      t.isFile l'.path = !l'.node.isDirectory := by
    intro l' hl'
    obtain ⟨names, halong', hlength⟩ :=
      Glob.isAlong_of_mem_reach hpattern.forall_components halong hl'
    have ne : [] ++ names ≠ [] := by
      rw [List.nil_append, ← List.length_pos_iff, hlength]
      exact List.length_pos_iff.mpr hpieces
    rw [isFile, locate_of_isAlong hl halong' ne]
  rw [hexpand, List.filter_map, List.filter_congr (q := fun l' => !l'.node.isDirectory) hfile,
    ← Glob.filter_files (mt List.isEmpty_iff.mpr hcomponents)]
  exact Glob.files_reach hpattern.forall_components halong (.inr hpieces)

/-- The files among the paths in a tree that match a plain pattern are, in the same order, the paths
    that match it in a store with the files of the tree, whatever the order in which they have been
    added. -/
theorem glob_filesUnder (ht : t.root.IsProper) (hpattern : IsPlain pattern) :
    ∃ paths, t.glob pattern = .ok paths ∧
      ∀ fs, fs.Perm (t.filesUnder (pattern.head? = some '/')) →
        (FlatStore.ofFiles fs).glob pattern = .ok (paths.filter t.isFile) := by
  have hglob : t.glob pattern = .ok ((t.expand (plainScope pattern)).map Location.path) := by
    rw [glob, hpattern.parse_scope]
    rfl
  have hpaths : ((t.filesUnder (plainScope pattern).absolute).map Prod.fst).filter
      ((plainPattern pattern).accepts true) =
        ((t.expand (plainScope pattern)).map Location.path).filter t.isFile := by
    cases hl : t.anchor (plainScope pattern).absolute with
    | error e =>
      have hstart : t.start (plainScope pattern) = .error e := hl
      rw [filesUnder, hl, expand, hstart]
      rfl
    | ok l => rw [filter_expand ht hpattern hl, filter_filesUnder ht hl]
  refine ⟨_, hglob, fun fs hfs => ?_⟩
  rw [FlatStore.glob_of_plain _ hpattern, FlatStore.paths_ofFiles hfs (pairwise_filesUnder ht _)]
  exact congrArg Except.ok hpaths

/-- A pattern matches a file and a directory of a directory, and no file one level further down. -/
theorem glob_filesUnder_beside_directory :
    let t := (((empty []).write ['/', 'a', '/', 'y'] [104]).write ['/', 'a', '/', 'x', '/', 'z']
      []).write ['/', 'b'] []
    let pattern := ['/', '?', '/', '*']
    let fs := (t.filesUnder true).reverse
    t.root.IsProper ∧ IsPlain pattern ∧
      t.glob pattern = .ok [['/', 'a', '/', 'x'], ['/', 'a', '/', 'y']] ∧
        (FlatStore.ofFiles fs).glob pattern = .ok [['/', 'a', '/', 'y']] := by
  intro t pattern fs
  have hworking : ∀ name ∈ ([] : List Text), IsEntryName name := nofun
  have ht : t.root.IsProper :=
    isProper_write (isProper_write (isProper_write (isProper_empty hworking) hworking _ _)
      hworking _ _) hworking _ _
  have hpattern : IsPlain pattern := ⟨by decide, by decide, by decide, by decide⟩
  have hglob : t.glob pattern = .ok [['/', 'a', '/', 'x'], ['/', 'a', '/', 'y']] := by
    rw [glob, hpattern.parse_scope]
    rfl
  obtain ⟨paths, hpaths, hstore⟩ := glob_filesUnder ht hpattern
  obtain rfl : paths = [['/', 'a', '/', 'x'], ['/', 'a', '/', 'y']] :=
    Except.ok.inj (hpaths.symm.trans hglob)
  exact ⟨ht, hpattern, hglob, hstore fs (List.reverse_perm _)⟩

end FileTree

end Telemetry
