import Telemetry.Path
import Telemetry.Proofs.Text.Splitting

/-!
# Paths of names

A path that spells the names of entries, one below the other, has just these names as its
components, and such paths are ordered as their names are.

## Main definitions

- `IsEntryName` — a text is the name that an entry of a directory can have
- `Path.ofNames` — the path that leads along names, from the root or from the directory at hand
- `Path.along` — the same, with a dot for the path along no names

## Main statements

- `Path.pieces_ofNames` — a path of names falls into its names
- `Path.components_ofNames` — the components of a path of names
- `Path.isEntryName_of_mem_components` — all names in paths are names of entries
- `Component.map_normal_lt` — components are ordered as names are
-/

namespace Telemetry

/-- A text is the name that an entry of a directory can have. -/
structure IsEntryName (name : Text) : Prop where
  ne_nil : name ≠ []
  no_slash : '/' ∉ name
  ne_current : name ≠ ['.']
  ne_parent : name ≠ ['.', '.']

namespace Path

/-- The path that leads along names, from the root or from the directory at hand. -/
def ofNames (absolute : Bool) (names : List Text) : Path :=
  (if absolute then ['/'] else []) ++ Text.join ['/'] names

variable {names : List Text}

/-- A path of names falls into its names. -/
theorem pieces_ofNames (h : ∀ name ∈ names, IsEntryName name) (ne : names ≠ []) :
    Text.splitChar '/' (Text.join ['/'] names) = names :=
  Text.splitChar_join (fun name hname => (h name hname).no_slash) ne

theorem join_eq_cons (h : ∀ name ∈ names, IsEntryName name) (ne : names ≠ []) :
    ∃ c t, Text.join ['/'] names = c :: t ∧ c ≠ '/' := by
  cases names with
  | nil => exact absurd rfl ne
  | cons name names =>
    obtain ⟨ne_nil, no_slash, -, -⟩ := h name List.mem_cons_self
    cases name with
    | nil => exact absurd rfl ne_nil
    | cons c name =>
      have hc : c ≠ '/' := fun heq => no_slash (heq ▸ List.mem_cons_self)
      exact ⟨c, _, Text.join_cons_head ['/'] c name names, hc⟩

theorem component?_of_isEntryName {name : Text} (h : IsEntryName name) (first : Bool) :
    component? first name = some (.normal name) := by
  rw [component?, if_neg h.ne_nil, if_neg h.ne_current, if_neg h.ne_parent]

theorem filterMap_component? (h : ∀ name ∈ names, IsEntryName name) (first : Bool) :
    names.filterMap (component? first) = names.map .normal := by
  induction names with
  | nil => rfl
  | cons name names ih =>
    have hname := component?_of_isEntryName (h name List.mem_cons_self) first
    rw [List.filterMap_cons_some hname, List.map_cons,
      ih fun n hn => h n (List.mem_cons_of_mem name hn)]

theorem components_of_ne_slash {p t : Text} {c : Char} (hp : p = c :: t) (hc : c ≠ '/') :
    components p =
      match Text.splitChar '/' p with
      | [] => []
      | first :: rest => (component? true first).toList ++ rest.filterMap (component? false) := by
  unfold components
  split
  · exact absurd (List.cons.inj hp).1.symm hc
  · rfl

/-- The components of a path of names are the root, if the path starts there, and the names. -/
theorem components_ofNames (h : ∀ name ∈ names, IsEntryName name) (ne : names ≠ [])
    (absolute : Bool) :
    (ofNames absolute names).components =
      (if absolute then [.root] else []) ++ names.map .normal := by
  cases absolute with
  | true =>
    have hpieces := pieces_ofNames h ne
    simp only [ofNames, components, if_true, List.singleton_append, hpieces,
      filterMap_component? h]
  | false =>
    cases names with
    | nil => exact absurd rfl ne
    | cons name names =>
      have hpieces := pieces_ofNames h ne
      have hname := component?_of_isEntryName (h name List.mem_cons_self) true
      have hrest := filterMap_component? (fun n hn => h n (List.mem_cons_of_mem name hn)) false
      obtain ⟨c, t, ht, hc⟩ := join_eq_cons h ne
      simp only [ofNames, Bool.false_eq_true, if_false, List.nil_append]
      rw [components_of_ne_slash ht hc, hpieces]
      simp only [hname, hrest, Option.toList_some, List.map_cons, List.singleton_append]

theorem isEntryName_of_component? {first : Bool} {piece name t : Text}
    (hpiece : piece ∈ Text.splitChar '/' t) (h : component? first piece = some (.normal name)) :
    IsEntryName name := by
  rw [component?] at h
  split at h
  case isTrue => cases h
  case isFalse hnil =>
    split at h
    case isTrue => split at h <;> cases h
    case isFalse hcurrent =>
      split at h
      case isTrue => cases h
      case isFalse hparent =>
        obtain rfl : piece = name := by simpa using h
        exact ⟨hnil, Text.not_mem_of_mem_splitChar hpiece, hcurrent, hparent⟩

/-- The names among the components of a path are names that entries can have. -/
theorem isEntryName_of_mem_components {p : Path} {name : Text}
    (h : .normal name ∈ p.components) : IsEntryName name := by
  unfold components at h
  split at h
  · rcases List.mem_cons.mp h with h | h
    · cases h
    · obtain ⟨piece, hpiece, hcomponent⟩ := List.mem_filterMap.mp h
      exact isEntryName_of_component? hpiece hcomponent
  · split at h
    · cases h
    · rename_i first rest hsplit
      have hpieces : ∀ piece ∈ first :: rest, piece ∈ Text.splitChar '/' p := by
        rw [hsplit]
        exact fun _ hpiece => hpiece
      rcases List.mem_append.mp h with h | h
      · exact isEntryName_of_component? (hpieces first List.mem_cons_self) (Option.mem_toList.mp h)
      · obtain ⟨piece, hpiece, hcomponent⟩ := List.mem_filterMap.mp h
        exact isEntryName_of_component? (hpieces piece (List.mem_cons_of_mem first hpiece))
          hcomponent

/-- The path along names, with a dot for the directory at hand. -/
def along (absolute : Bool) (names : List Text) : Path :=
  if absolute = false ∧ names = [] then ['.'] else ofNames absolute names

theorem along_of_ne_nil (absolute : Bool) (ne : names ≠ []) :
    along absolute names = ofNames absolute names :=
  if_neg fun h => ne h.2

/-- A path of names does not end in a slash. -/
theorem getLast?_ofNames (h : ∀ name ∈ names, IsEntryName name) (ne : names ≠ [])
    (absolute : Bool) : ∃ c, (ofNames absolute names).getLast? = some c ∧ c ≠ '/' := by
  obtain ⟨before, last, rfl⟩ := (List.eq_nil_or_concat names).resolve_left ne
  rw [List.concat_eq_append] at *
  obtain ⟨ne_nil, no_slash, -, -⟩ := h last (by simp)
  obtain ⟨c, hc⟩ := Option.ne_none_iff_exists'.mp (mt List.getLast?_eq_none_iff.mp ne_nil)
  have hjoin : ∃ t, ofNames absolute (before ++ [last]) = t ++ last := by
    by_cases hbefore : before = []
    · subst hbefore
      exact ⟨_, by rw [ofNames, List.nil_append, Text.join_singleton]⟩
    · exact ⟨_, by
        rw [ofNames, Text.join_append ['/'] hbefore (List.cons_ne_nil last []),
          Text.join_singleton, ← List.append_assoc]⟩
  obtain ⟨t, ht⟩ := hjoin
  refine ⟨c, ?_, fun hslash => no_slash (hslash ▸ List.mem_of_getLast? hc)⟩
  rw [ht, List.getLast?_append, hc, Option.some_or]

/-- A path with a name behind it leads one name further. -/
theorem append_ofNames (h : ∀ name ∈ names, IsEntryName name) (ne : names ≠ [])
    (absolute : Bool) (name : Text) :
    (ofNames absolute names).append name = ofNames absolute (names ++ [name]) := by
  obtain ⟨c, hc, hslash⟩ := getLast?_ofNames h ne absolute
  have hlast : ¬ ((ofNames absolute names).getLast? = some '/' ∨ ofNames absolute names = []) := by
    rintro (hlast | hnil)
    · exact hslash (Option.some.inj (hc.symm.trans hlast))
    · rw [hnil] at hc
      cases hc
  rw [append, if_neg hlast]
  simp only [ofNames, Text.join_append ['/'] ne (List.cons_ne_nil name []), Text.join_singleton,
    List.append_assoc, List.singleton_append]

end Path

/-- Lists of names are ordered as the components that they make. -/
theorem Component.map_normal_lt {names names' : List Text} (h : names < names') :
    names.map Component.normal < names'.map Component.normal := by
  induction names generalizing names' with
  | nil =>
    cases names' with
    | nil => exact absurd h (KeyOrder.irrefl _)
    | cons name' names' => exact List.nil_lt_cons _ _
  | cons name names ih =>
    cases names' with
    | nil => exact absurd h (List.not_lt_nil _)
    | cons name' names' =>
      rw [List.map_cons, List.map_cons, List.cons_lt_cons_iff]
      rcases List.cons_lt_cons_iff.mp h with hname | ⟨rfl, hnames⟩
      · exact .inl (Component.lt_iff.mpr (.inr ⟨rfl, hname⟩))
      · exact .inr ⟨rfl, ih hnames⟩

end Telemetry
