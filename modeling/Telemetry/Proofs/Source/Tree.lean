import Telemetry.Proofs.Path
import Telemetry.Proofs.SortedMap
import Telemetry.Source.Tree

/-!
# Trees of named entries

In a tree that writing has made, the entries of every directory have distinct names, in order, that
can stand in paths. Such a tree is a list of files in the order of the names that lead to them, and
a path along names leads to just the node that the names lead to.

## Main definitions

- `Node.IsProper` — directories have entries with distinct names in order
- `Node.files` — the files of a node under the names that lead to them
- `FileTree.anchor` — the place at which paths start
- `Location.IsAlong` — a place is the one that names lead to

## Main statements

- `FileTree.isProper_write` — writing keeps trees proper
- `Node.keysIncrease_files` — the files of a proper node are in the order of their names
- `Location.followAll_file_iff` — names lead to the files of a node, and to no others
- `FileTree.locate_of_isAlong` — a path along names leads to the node that the names lead to
-/

namespace Telemetry

namespace Node

/-- The entries of a directory have names in strictly increasing order that entries can have, and so
    have those below. -/
inductive IsProper : Node → Prop
  | file (bytes : List UInt8) : IsProper (.file bytes)
  | directory {es : List (Text × Node)} (names : ∀ e ∈ es, IsEntryName e.1)
      (sorted : KeysIncrease es) (nodes : ∀ e ∈ es, IsProper e.2) : IsProper (.directory es)

namespace IsProper

variable {n : Node} {e : Text × Node}

theorem isEntryName (h : n.IsProper) (he : e ∈ n.entries) : IsEntryName e.1 := by
  cases h with
  | file => cases he
  | directory names sorted nodes => exact names e he

theorem keysIncrease (h : n.IsProper) : KeysIncrease n.entries := by
  cases h with
  | file => exact List.Pairwise.nil
  | directory names sorted nodes => exact sorted

theorem entry (h : n.IsProper) (he : e ∈ n.entries) : e.2.IsProper := by
  cases h with
  | file => cases he
  | directory names sorted nodes => exact nodes e he

theorem child?_of_mem (h : n.IsProper) (he : e ∈ n.entries) : n.child? e.1 = some e.2 := by
  rw [child?, SortedMap.find?_of_mem h.keysIncrease he]
  rfl

theorem child? (h : n.IsProper) {name : Text} {m : Node} (hm : n.child? name = some m) :
    m.IsProper := by
  obtain ⟨e, he, rfl⟩ := Option.map_eq_some_iff.mp hm
  exact h.entry (List.mem_of_find?_eq_some he)

end IsProper

-- ════════════════════════════════════════════════════════════════════════
-- Writing
-- ════════════════════════════════════════════════════════════════════════

/-- Entries are put among others as into a map. -/
theorem putEntry_eq_put (name : Text) (n : Node) (es : List (Text × Node)) :
    putEntry name n es = SortedMap.put name n es := by
  induction es with
  | nil => rfl
  | cons e es ih =>
    obtain ⟨name', n'⟩ := e
    rw [putEntry, SortedMap.put, ih]
    by_cases heq : name = name'
    · subst heq
      rw [if_pos rfl, if_neg (KeyOrder.irrefl name), if_neg (KeyOrder.irrefl name)]
    · rw [if_neg heq]
      by_cases hlt : name < name'
      · rw [if_pos hlt, if_pos hlt]
      · have hgt : name' < name :=
          Decidable.byContradiction fun h => heq (KeyOrder.eq_of_not_lt hlt h)
        rw [if_neg hlt, if_neg hlt, if_pos hgt]

theorem isProper_emptyDirectory : emptyDirectory.IsProper :=
  .directory nofun .nil nofun

/-- A change of one node that keeps nodes proper keeps trees proper. -/
theorem IsProper.update {change : Node → Node} {n : Node} {names : List Text}
    (hchange : ∀ n : Node, n.IsProper → (change n).IsProper)
    (hnames : ∀ name ∈ names, IsEntryName name) (h : n.IsProper) :
    (Node.update change names n).IsProper := by
  induction names generalizing n with
  | nil =>
    rw [Node.update]
    exact hchange n h
  | cons name names ih =>
    obtain ⟨hname, hrest⟩ := List.forall_mem_cons.mp hnames
    cases n with
    | file bytes => exact h
    | directory es =>
      have hchild : (((Node.directory es).child? name).getD emptyDirectory).IsProper := by
        cases hm : (Node.directory es).child? name with
        | none => exact isProper_emptyDirectory
        | some m => exact h.child? hm
      rw [Node.update, putEntry_eq_put]
      refine .directory (fun e he => ?_) (SortedMap.keysIncrease_put h.keysIncrease) fun e he => ?_
      · rcases SortedMap.mem_put he with rfl | he
        · exact hname
        · exact h.isEntryName he
      · rcases SortedMap.mem_put he with rfl | he
        · exact ih hrest hchild
        · exact h.entry he

end Node

namespace FileTree

variable {t : FileTree}

theorem isProper_empty {working : List Text} (h : ∀ name ∈ working, IsEntryName name) :
    (empty working).root.IsProper :=
  Node.isProper_emptyDirectory.update (fun _ hn => hn) h

theorem isEntryName_of_mem_names (h : ∀ name ∈ t.working, IsEntryName name) {p : Path} {name : Text}
    (hname : name ∈ t.names p) : IsEntryName name := by
  unfold names at hname
  extract_lets below at hname
  have hbelow : ∀ {name}, name ∈ below → IsEntryName name := by
    intro name hmem
    obtain ⟨c, hc, hsome⟩ := List.mem_filterMap.mp hmem
    cases c <;> cases hsome
    exact Path.isEntryName_of_mem_components hc
  split at hname
  · exact hbelow hname
  · exact (List.mem_append.mp hname).elim (h name) hbelow

/-- A tree stays proper when a file is written into it. -/
theorem isProper_write (ht : t.root.IsProper) (h : ∀ name ∈ t.working, IsEntryName name) (p : Path)
    (bytes : List UInt8) : (t.write p bytes).root.IsProper :=
  ht.update (fun _ _ => .file bytes) fun _ => isEntryName_of_mem_names h

/-- A tree stays proper when a directory is made in it. -/
theorem isProper_makeDirectory (ht : t.root.IsProper) (h : ∀ name ∈ t.working, IsEntryName name)
    (p : Path) : (t.makeDirectory p).root.IsProper :=
  ht.update (fun _ hn => hn) fun _ => isEntryName_of_mem_names h

end FileTree

-- ════════════════════════════════════════════════════════════════════════
-- Files
-- ════════════════════════════════════════════════════════════════════════

namespace Node

mutual

/-- The files at and below a node, under the names that lead to them from there. -/
def files : Node → List (List Text × List UInt8)
  | .file bytes => [([], bytes)]
  | .directory es => filesIn es

/-- The files among entries and below them, under the names that lead to them. -/
def filesIn : List (Text × Node) → List (List Text × List UInt8)
  | [] => []
  | (name, n) :: es => (files n).map (fun (names, bytes) => (name :: names, bytes)) ++ filesIn es

end

variable {n : Node} {es : List (Text × Node)} {f : List Text × List UInt8}

theorem filesIn_eq_flatMap (es : List (Text × Node)) :
    filesIn es = es.flatMap fun e => e.2.files.map fun f => (e.1 :: f.1, f.2) := by
  induction es with
  | nil => rfl
  | cons e es ih => rw [filesIn, ih, List.flatMap_cons]

theorem mem_filesIn_iff :
    f ∈ filesIn es ↔ ∃ e ∈ es, ∃ f' ∈ e.2.files, f = (e.1 :: f'.1, f'.2) := by
  simp only [filesIn_eq_flatMap, List.mem_flatMap, List.mem_map, eq_comm]

theorem ne_nil_of_mem_filesIn (h : f ∈ filesIn es) : f.1 ≠ [] := by
  obtain ⟨e, -, f', -, rfl⟩ := mem_filesIn_iff.mp h
  exact List.cons_ne_nil e.1 f'.1

/-- The only file that is not below a node is the node itself. -/
theorem mem_files_iff_mem_filesIn (ne : f.1 ≠ []) : f ∈ n.files ↔ f ∈ filesIn n.entries := by
  cases n with
  | file bytes =>
    have hself : f ∉ files (.file bytes) := by
      intro hf
      obtain rfl := List.mem_singleton.mp hf
      exact ne rfl
    exact iff_of_false hself List.not_mem_nil
  | directory es => exact Iff.rfl

/-- The files below an entry are those of its node. -/
theorem mem_files_cons_iff (h : n.IsProper) {name : Text} {names : List Text}
    {bytes : List UInt8} :
    (name :: names, bytes) ∈ n.files ↔ ∃ m, n.child? name = some m ∧ (names, bytes) ∈ m.files := by
  cases n with
  | file => simp [files, child?, entries]
  | directory es =>
    rw [files, mem_filesIn_iff]
    constructor
    · rintro ⟨e, he, f, hf, heq⟩
      obtain ⟨⟨rfl, rfl⟩, rfl⟩ : (name = e.1 ∧ names = f.1) ∧ bytes = f.2 := by simpa using heq
      exact ⟨e.2, h.child?_of_mem he, hf⟩
    · rintro ⟨m, hm, hf⟩
      obtain ⟨e, hfind, rfl⟩ := Option.map_eq_some_iff.mp hm
      obtain rfl : e.1 = name := by simpa using List.find?_some hfind
      exact ⟨e, List.mem_of_find?_eq_some hfind, _, hf, rfl⟩

/-- The names that lead to files are those of entries. -/
theorem IsProper.isEntryName_of_mem_files (h : n.IsProper) (hf : f ∈ n.files) :
    ∀ name ∈ f.1, IsEntryName name := by
  induction h generalizing f with
  | file bytes =>
    obtain rfl := List.mem_singleton.mp hf
    exact nofun
  | directory names sorted nodes ih =>
    obtain ⟨e, he, f', hf', rfl⟩ := mem_filesIn_iff.mp hf
    exact List.forall_mem_cons.mpr ⟨names e he, ih e he hf'⟩

/-- The files of a proper node are in the order of the names that lead to them. -/
theorem IsProper.keysIncrease_files (h : n.IsProper) : KeysIncrease n.files := by
  induction h with
  | file bytes => exact List.pairwise_singleton _ _
  | @directory es names sorted nodes ih =>
    rw [files, filesIn_eq_flatMap, KeysIncrease, List.pairwise_flatMap]
    constructor
    · intro e he
      rw [List.pairwise_map]
      exact (ih e he).imp fun hlt => List.cons_lt_cons_iff.mpr (.inr ⟨rfl, hlt⟩)
    · refine sorted.imp fun {e e'} hlt f hf f' hf' => ?_
      obtain ⟨g, -, rfl⟩ := List.mem_map.mp hf
      obtain ⟨g', -, rfl⟩ := List.mem_map.mp hf'
      exact List.cons_lt_cons_iff.mpr (.inl hlt)

theorem IsProper.keysIncrease_filesIn (h : n.IsProper) : KeysIncrease (filesIn n.entries) := by
  cases h with
  | file => exact List.Pairwise.nil
  | directory names sorted nodes => exact (IsProper.directory names sorted nodes).keysIncrease_files

theorem IsProper.isEntryName_of_mem_filesIn (h : n.IsProper) (hf : f ∈ filesIn n.entries) :
    ∀ name ∈ f.1, IsEntryName name := by
  cases n with
  | file => cases hf
  | directory es => exact h.isEntryName_of_mem_files hf

end Node

-- ════════════════════════════════════════════════════════════════════════
-- Places
-- ════════════════════════════════════════════════════════════════════════

namespace Location

variable {l m : Location} {path : Path} {name : Text} {names : List Text}

/-- A place in a proper tree. -/
structure IsProper (l : Location) : Prop where
  node : l.node.IsProper
  around : ∀ n ∈ l.around, n.IsProper

theorem IsProper.follow (h : l.IsProper) (hm : l.follow name path = .ok m) : m.IsProper := by
  obtain ⟨path', n, around⟩ := l
  obtain ⟨hn, haround⟩ := h
  cases n with
  | file bytes => cases hm
  | directory es =>
    simp only [Location.follow] at hm
    split at hm
    · cases hm
      exact ⟨hn, haround⟩
    · split at hm
      · split at hm <;> cases hm
        · exact ⟨hn, haround⟩
        · obtain ⟨hfirst, hrest⟩ := List.forall_mem_cons.mp haround
          exact ⟨hfirst, hrest⟩
      · split at hm <;> cases hm
        rename_i hchild
        exact ⟨hn.child? hchild, List.forall_mem_cons.mpr ⟨hn, haround⟩⟩

theorem IsProper.followAll (h : l.IsProper) (hm : followAll path l names = .ok m) : m.IsProper := by
  induction names generalizing l with
  | nil =>
    cases hm
    exact ⟨h.node, h.around⟩
  | cons name names ih =>
    rw [Location.followAll] at hm
    split at hm
    · cases hm
    · rename_i hfollow
      exact ih (h.follow hfollow) hm

theorem path_of_followAll (h : followAll path l names = .ok m) : m.path = path := by
  induction names generalizing l with
  | nil =>
    cases h
    rfl
  | cons name names ih =>
    rw [followAll] at h
    split at h
    · cases h
    · exact ih h

/-- The name of an entry leads to it. -/
theorem follow_of_child? (hname : IsEntryName name) {n : Node} (hn : l.node.child? name = some n)
    (path : Path) : l.follow name path = .ok ⟨path, n, l.node :: l.around⟩ := by
  obtain ⟨path', node, around⟩ := l
  cases node with
  | file bytes => cases hn
  | directory es =>
    have hdot : ¬ (name = [] ∨ name = ['.']) := not_or.mpr ⟨hname.ne_nil, hname.ne_current⟩
    simp only [follow, if_neg hdot, if_neg hname.ne_parent, hn]

/-- The name of an entry leads nowhere else. -/
theorem child?_of_follow (hname : IsEntryName name) (h : l.follow name path = .ok m) :
    ∃ n, l.node.child? name = some n ∧ m = ⟨path, n, l.node :: l.around⟩ := by
  obtain ⟨path', node, around⟩ := l
  cases node with
  | file bytes => cases h
  | directory es =>
    have hdot : ¬ (name = [] ∨ name = ['.']) := not_or.mpr ⟨hname.ne_nil, hname.ne_current⟩
    simp only [follow, if_neg hdot, if_neg hname.ne_parent] at h
    split at h
    · rename_i n hn
      exact ⟨n, hn, (Except.ok.inj h).symm⟩
    · cases h

/-- One more name leads one step further. -/
theorem followAll_concat (h : followAll path l names = .ok m) (name : Text) :
    followAll path l (names ++ [name]) = (m.follow name path).map ({ · with path := path }) := by
  induction names generalizing l with
  | nil =>
    cases h
    have hpath : ({ l with path := path } : Location).follow name path = l.follow name path := rfl
    rw [List.nil_append, followAll, hpath]
    cases l.follow name path <;> rfl
  | cons name' names ih =>
    rw [List.cons_append, followAll]
    rw [followAll] at h
    split at h
    · cases h
    · exact ih h

/-- Names lead to files exactly as they do among the files of a node. -/
theorem followAll_file_iff (h : l.node.IsProper) (hnames : ∀ name ∈ names, IsEntryName name)
    {bytes : List UInt8} :
    (∃ around, followAll path l names = .ok ⟨path, .file bytes, around⟩) ↔
      (names, bytes) ∈ l.node.files := by
  induction names generalizing l with
  | nil =>
    obtain ⟨path', node, around⟩ := l
    cases node with
    | file bytes' => simp [followAll, Node.files, eq_comm]
    | directory es =>
      have hmem : ([], bytes) ∉ Node.filesIn es := fun hmem => Node.ne_nil_of_mem_filesIn hmem rfl
      simp [followAll, Node.files, hmem]
  | cons name names ih =>
    obtain ⟨hname, hrest⟩ := List.forall_mem_cons.mp hnames
    rw [followAll, Node.mem_files_cons_iff h]
    constructor
    · rintro ⟨around, hfile⟩
      cases hfollow : l.follow name path with
      | error e =>
        rw [hfollow] at hfile
        cases hfile
      | ok m =>
        rw [hfollow] at hfile
        obtain ⟨n, hn, rfl⟩ := child?_of_follow hname hfollow
        exact ⟨n, hn, (ih (h.child? hn) hrest).mp ⟨around, hfile⟩⟩
    · rintro ⟨n, hn, hmem⟩
      rw [follow_of_child? hname hn]
      exact (ih (l := ⟨path, n, l.node :: l.around⟩) (h.child? hn) hrest).mpr hmem

end Location

namespace FileTree

variable (t : FileTree)

/-- The place at which absolute paths start, or all other ones. -/
def anchor (absolute : Bool) : Except ReadError Location :=
  if absolute then .ok t.top else t.here

theorem isProper_anchor {t : FileTree} (ht : t.root.IsProper) {absolute : Bool} {l : Location}
    (hl : t.anchor absolute = .ok l) : l.IsProper := by
  have htop : t.top.IsProper := ⟨ht, nofun⟩
  cases absolute with
  | true =>
    cases hl
    exact htop
  | false => exact htop.followAll hl

theorem path_of_anchor {t : FileTree} {absolute : Bool} {l : Location}
    (hl : t.anchor absolute = .ok l) : l.path = Path.along absolute [] := by
  cases absolute with
  | true =>
    cases hl
    rfl
  | false => exact Location.path_of_followAll hl

/-- A path along names is followed name by name from its start. -/
theorem locate_ofNames {names : List Text} (h : ∀ name ∈ names, IsEntryName name) (ne : names ≠ [])
    (absolute : Bool) :
    t.locate (.ofNames absolute names) =
      match t.anchor absolute with
      | .error e => .error e
      | .ok l => Location.followAll (.ofNames absolute names) l names := by
  have hpieces := Path.pieces_ofNames h ne
  cases absolute with
  | true => simp only [locate, Path.ofNames, anchor, if_true, List.singleton_append, hpieces]
  | false =>
    obtain ⟨c, rest, hcons, hc⟩ := Path.join_eq_cons h ne
    simp only [Path.ofNames, anchor, Bool.false_eq_true, if_false, List.nil_append]
    unfold locate
    split
    · rename_i hnil
      cases hcons.symm.trans hnil
    · rename_i hslash
      exact absurd (List.cons.inj (hcons.symm.trans hslash)).1 hc
    · cases t.here with
      | error e => rfl
      | ok l => exact congrArg (Location.followAll _ l) hpieces

theorem locate_of_anchor {t : FileTree} {absolute : Bool} {l : Location}
    (hl : t.anchor absolute = .ok l) {names : List Text} (h : ∀ name ∈ names, IsEntryName name)
    (ne : names ≠ []) :
    t.locate (.ofNames absolute names) = Location.followAll (.ofNames absolute names) l names := by
  rw [t.locate_ofNames h ne, hl]

/-- What is read from a path is what the file holds that the path leads to. -/
theorem read_eq_ok_iff {t : FileTree} {p : Path} {contents : Text} :
    t.read p = .ok contents ↔
      ∃ l bytes, t.locate p = .ok l ∧ l.node = .file bytes ∧ Utf8.decodeLossy bytes = contents := by
  rw [read]
  cases t.locate p with
  | error e => simp
  | ok l => cases hnode : l.node <;> simp [hnode]

end FileTree

/-- A place is the one that names lead to from another one. -/
structure Location.IsAlong (l₀ : Location) (absolute : Bool) (names : List Text) (l : Location) :
    Prop where
  path : l.path = Path.along absolute names
  isEntryName : ∀ name ∈ names, IsEntryName name
  follows : ∀ path, followAll path l₀ names = .ok { l with path := path }
  proper : l.node.IsProper

namespace Location.IsAlong

variable {l₀ l : Location} {absolute : Bool} {names : List Text}

theorem nil (hpath : l₀.path = Path.along absolute []) (h : l₀.IsProper) :
    IsAlong l₀ absolute [] l₀ :=
  ⟨hpath, nofun, fun _ => rfl, h.node⟩

/-- An entry of a place that names lead to is the place that one more name leads to. -/
theorem concat (h : IsAlong l₀ absolute names l) {e : Text × Node} (he : e ∈ l.node.entries) :
    IsAlong l₀ absolute (names ++ [e.1])
      ⟨.ofNames absolute (names ++ [e.1]), e.2, l.node :: l.around⟩ where
  path := (Path.along_of_ne_nil absolute (by simp)).symm
  isEntryName := by
    simpa [or_imp, forall_and] using And.intro h.isEntryName (h.proper.isEntryName he)
  follows := by
    intro path
    have hname := h.proper.isEntryName he
    have hchild := h.proper.child?_of_mem he
    rw [followAll_concat (h.follows path),
      follow_of_child? (l := { l with path := path }) hname hchild path]
    rfl
  proper := h.proper.entry he

end Location.IsAlong

/-- A path along names leads to the node that the names lead to. -/
theorem FileTree.locate_of_isAlong {t : FileTree} {absolute : Bool} {l₀ l : Location}
    {names : List Text} (h₀ : t.anchor absolute = .ok l₀) (h : l₀.IsAlong absolute names l)
    (ne : names ≠ []) : t.locate l.path = .ok l := by
  have hpath : l.path = Path.ofNames absolute names :=
    h.path.trans (Path.along_of_ne_nil absolute ne)
  rw [hpath, locate_of_anchor h₀ h.isEntryName ne, ← hpath]
  exact h.follows l.path

end Telemetry
