import Telemetry.Proofs.Namespace.Instance
import Telemetry.Proofs.Namespace.Normalization

/-!
# The shape of bound namespaces

A pattern is bound exactly if each of its placeholders has a value: the index of a positional one is
that of a component of the path, from the start or from the end, and the name of any other one is
known to the context. The first placeholder without value is the one that is reported.

A bound namespace is printed with slashes between its values. Static text and components of a path
have no slash in them, so the values can be told apart in the printed text as long as no variable
brings a slash of its own, even where some of them are empty.

## Main definitions

- `IsIndexOf` — an index is that of one of several components
- `Placeholder.HasValue`, `Placeholder.LacksValue` — what a placeholder needs, and what is reported
- `Placeholder.FirstWithoutValue` — the placeholder of a list that is reported

## Main statements

- `component?_eq_none_iff` — the indexes that lead out of a path
- `Segment.exists_bindAll`, `Segment.bindAll_of_firstWithoutValue` — binding segment by segment
- `BoundNamespace.splitChar_display_iff` — when values can be told apart
- `Namespace.bind_shape` — both, for the namespaces of patterns
-/

namespace Telemetry

-- ════════════════════════════════════════════════════════════════════════
-- Components
-- ════════════════════════════════════════════════════════════════════════

/-- An index is that of one of `n` components, counted from the start or, below zero, from the
    end. -/
def IsIndexOf (n : Nat) (index : Int64) : Prop :=
  -(n : Int) ≤ index.toInt ∧ index.toInt < n

/-- The indexes that lead to no component are those out of bounds. -/
theorem component?_eq_none_iff {components : List Text} {index : Int64} :
    component? components index = none ↔ ¬ IsIndexOf components.length index := by
  unfold component? IsIndexOf
  dsimp only
  split
  case h_1 n hn =>
    rw [List.getElem?_eq_none_iff]
    split at hn <;> simp only [Int.ofNat_eq_natCast] at hn <;> omega
  case h_2 n hn =>
    simp only [true_iff]
    split at hn <;> omega

-- ════════════════════════════════════════════════════════════════════════
-- Placeholders
-- ════════════════════════════════════════════════════════════════════════

namespace Placeholder

/-- A placeholder has a value for a path and a context. -/
inductive HasValue (path : Text) (context : Context) (d : Placeholder) : Prop
  | component {index : Int64} (directive : d.directive = .path index)
      (isIndex : IsIndexOf (Text.splitChar '/' path).length index)
  | named {v : Value} (directive : d.directive = .variable) (known : context d.name = some v)

/-- A placeholder has no value for a path and a context, and what is reported of it. -/
inductive LacksValue (path : Text) (context : Context) (d : Placeholder) : BindError → Prop
  | component {index : Int64} (directive : d.directive = .path index)
      (outside : ¬ IsIndexOf (Text.splitChar '/' path).length index) :
      LacksValue path context d (.indexOutOfBounds index path)
  | named (directive : d.directive = .variable) (unknown : context d.name = none) :
      LacksValue path context d (.noValue d.name)

/-- The error of several placeholders is that of the first one without value. -/
def FirstWithoutValue (path : Text) (context : Context) (ds : List Placeholder) (e : BindError) :
    Prop :=
  ∃ before d after, ds = before ++ d :: after ∧
    (∀ earlier ∈ before, earlier.HasValue path context) ∧ d.LacksValue path context e

variable {path : Text} {context : Context} {d : Placeholder} {ds : List Placeholder} {e : BindError}

theorem hasValue_or_lacksValue (path : Text) (context : Context) (d : Placeholder) :
    d.HasValue path context ∨ ∃ e, d.LacksValue path context e := by
  cases hd : d.directive with
  | path index =>
    by_cases hindex : IsIndexOf (Text.splitChar '/' path).length index
    · exact .inl (.component hd hindex)
    · exact .inr ⟨_, .component hd hindex⟩
  | _ =>
    cases hv : context d.name with
    | none => exact .inr ⟨_, .named hd hv⟩
    | some v => exact .inl (.named hd hv)

theorem HasValue.exists_resolve (h : d.HasValue path context) :
    ∃ value, d.resolve path context = .ok value := by
  cases h with
  | @component index directive isIndex =>
    cases hc : component? (Text.splitChar '/' path) index with
    | none => exact absurd isIndex (component?_eq_none_iff.mp hc)
    | some value => exact ⟨value, by simp only [resolve, directive, hc]⟩
  | @named v directive known => exact ⟨v.canonical, by simp only [resolve, directive, known]⟩

theorem LacksValue.resolve_eq (h : d.LacksValue path context e) :
    d.resolve path context = .error e := by
  cases h with
  | component directive outside =>
    simp only [resolve, directive, component?_eq_none_iff.mpr outside]
  | named directive unknown => simp only [resolve, directive, unknown]

/-- Either all placeholders of a list have values, or there is a first one without. -/
theorem forall_hasValue_or_firstWithoutValue (path : Text) (context : Context)
    (ds : List Placeholder) :
    (∀ d ∈ ds, d.HasValue path context) ∨ ∃ e, FirstWithoutValue path context ds e := by
  induction ds with
  | nil => exact .inl nofun
  | cons d ds ih =>
    obtain hd | ⟨e, hd⟩ := hasValue_or_lacksValue path context d
    · obtain hds | ⟨e, before, d', after, rfl, hbefore, hd'⟩ := ih
      · exact .inl (List.forall_mem_cons.mpr ⟨hd, hds⟩)
      · exact .inr ⟨e, d :: before, d', after, rfl, List.forall_mem_cons.mpr ⟨hd, hbefore⟩, hd'⟩
    · exact .inr ⟨e, [], d, ds, rfl, nofun, hd⟩

theorem FirstWithoutValue.of_cons (h : FirstWithoutValue path context (d :: ds) e)
    (hd : d.HasValue path context) : FirstWithoutValue path context ds e := by
  obtain ⟨before, d', after, hds, hbefore, hd'⟩ := h
  cases before with
  | nil =>
    obtain ⟨rfl, rfl⟩ := List.cons.inj hds
    obtain ⟨value, hvalue⟩ := hd.exists_resolve
    cases hvalue.symm.trans hd'.resolve_eq
  | cons first before =>
    obtain ⟨-, rfl⟩ := List.cons.inj hds
    exact ⟨before, d', after, rfl, (List.forall_mem_cons.mp hbefore).2, hd'⟩

theorem FirstWithoutValue.eq_of_cons {e' : BindError}
    (h : FirstWithoutValue path context (d :: ds) e) (hd : d.LacksValue path context e') :
    e' = e := by
  obtain ⟨before, d', after, hds, hbefore, hd'⟩ := h
  cases before with
  | nil =>
    obtain ⟨rfl, rfl⟩ := List.cons.inj hds
    exact Except.error.inj (hd.resolve_eq.symm.trans hd'.resolve_eq)
  | cons first before =>
    obtain ⟨rfl, rfl⟩ := List.cons.inj hds
    obtain ⟨value, hvalue⟩ := (hbefore d List.mem_cons_self).exists_resolve
    cases hvalue.symm.trans hd.resolve_eq

end Placeholder

-- ════════════════════════════════════════════════════════════════════════
-- Segments
-- ════════════════════════════════════════════════════════════════════════

namespace Segment

variable {path : Text} {context : Context} {segments : List Segment} {e : BindError}

theorem exists_bindAll (h : ∀ d ∈ Namespace.placeholders ⟨segments⟩, d.HasValue path context) :
    ∃ elements, bindAll path context segments = .ok elements := by
  induction segments with
  | nil => exact ⟨[], rfl⟩
  | cons segment segments ih =>
    cases segment with
    | static t =>
      obtain ⟨elements, helements⟩ := ih h
      exact ⟨⟨t, none⟩ :: elements, by rw [bindAll, bind, helements]; rfl⟩
    | placeholder d =>
      obtain ⟨hd, hrest⟩ := List.forall_mem_cons.mp h
      obtain ⟨value, hvalue⟩ := hd.exists_resolve
      obtain ⟨elements, helements⟩ := ih hrest
      exact ⟨⟨value, some d.name⟩ :: elements, by rw [bindAll, bind, hvalue, helements]; rfl⟩

theorem bindAll_of_firstWithoutValue
    (h : Placeholder.FirstWithoutValue path context (Namespace.placeholders ⟨segments⟩) e) :
    bindAll path context segments = .error e := by
  induction segments with
  | nil =>
    obtain ⟨before, d, after, hds, -⟩ := h
    simp [Namespace.placeholders] at hds
  | cons segment segments ih =>
    cases segment with
    | static t => rw [bindAll, bind, ih h]; rfl
    | placeholder d =>
      obtain hd | ⟨e', hd⟩ := d.hasValue_or_lacksValue path context
      · obtain ⟨value, hvalue⟩ := hd.exists_resolve
        rw [bindAll, bind, hvalue, ih (Placeholder.FirstWithoutValue.of_cons h hd)]
        rfl
      · obtain rfl : e' = e := Placeholder.FirstWithoutValue.eq_of_cons h hd
        rw [bindAll, bind, hd.resolve_eq]
        rfl

end Segment

-- ════════════════════════════════════════════════════════════════════════
-- Printed values
-- ════════════════════════════════════════════════════════════════════════

/-- The printed text of a bound namespace falls into an empty piece and the values exactly if none
    of these has a slash in it. -/
theorem BoundNamespace.splitChar_display_iff {b : BoundNamespace} (ne : b.elements ≠ []) :
    Text.splitChar '/' b.display = [] :: b.elements.map Element.value ↔
      ∀ element ∈ b.elements, '/' ∉ element.value := by
  have hvalues : b.elements.map Element.value ≠ [] := mt List.map_eq_nil_iff.mp ne
  have hdisplay : Text.join ['/'] ([] :: b.elements.map Element.value) = b.display := by
    rw [Text.join_cons ['/'] [] hvalues]
    rfl
  rw [Text.splitChar_eq_iff, List.forall_mem_cons, List.forall_mem_map]
  exact ⟨fun h => h.2.1.2, fun h => ⟨List.cons_ne_nil _ _, ⟨List.not_mem_nil, h⟩, hdisplay⟩⟩

namespace Namespace

/-- No text that a variable gives to a placeholder of a namespace has a slash in it. -/
def VariablesFreeOfSlash (ns : Namespace) (context : Context) : Prop :=
  ∀ d ∈ ns.placeholders, d.directive = .variable →
    ∀ v, context d.name = some v → '/' ∉ v.canonical

variable {path : Text} {context : Context} {ns : Namespace} {b : BoundNamespace}

theorem mem_placeholders_iff {d : Placeholder} :
    d ∈ ns.placeholders ↔ .placeholder d ∈ ns.segments := by
  rw [placeholders, List.mem_filterMap]
  constructor
  · rintro ⟨segment, hmem, hd⟩
    cases segment with
    | static t => cases hd
    | placeholder d' =>
      obtain rfl := Option.some.inj hd
      exact hmem
  · exact fun h => ⟨_, h, rfl⟩

/-- Only variables bring slashes into an instance of a pattern without slashes in its static
    text. -/
theorem slash_not_mem_iff (h : b.IsInstance ns path context)
    (hstatic : ∀ t, .static t ∈ ns.segments → '/' ∉ t) :
    (∀ element ∈ b.elements, '/' ∉ element.value) ↔ ns.VariablesFreeOfSlash context := by
  constructor
  · intro hfree d hd hvariable v hv
    obtain ⟨element, helement, hfills⟩ :=
      exists_mem_of_forall₂ h.flip (mem_placeholders_iff.mp hd)
    obtain _ | ⟨directive, -⟩ | ⟨-, known⟩ := hfills
    · cases hvariable.symm.trans directive
    · cases hv.symm.trans known
      exact hfree _ helement
  · intro hfree element helement
    obtain ⟨segment, hsegment, hfills⟩ := exists_mem_of_forall₂ h helement
    obtain t | ⟨-, mem⟩ | ⟨directive, known⟩ := hfills
    · exact hstatic t hsegment
    · exact Text.not_mem_of_mem_splitChar mem
    · exact hfree _ (mem_placeholders_iff.mpr hsegment) directive _ known

/-- The static text of a pattern has no slash in it. -/
theorem slash_not_mem_of_parse {p t : Text} (h : parse p = .ok ns) (ht : .static t ∈ ns.segments) :
    '/' ∉ t := by
  obtain ⟨-, spelled⟩ := isPattern_and_forall₂_of_parse h
  obtain ⟨part, hpart, hspelled⟩ := exists_mem_of_forall₂ spelled ht
  cases hspelled
  exact (isPart_of_mem_parts hpart).noSlash

/-- A pattern has segments. -/
theorem segments_ne_nil_of_parse {p : Text} (h : parse p = .ok ns) : ns.segments ≠ [] := by
  obtain ⟨hpattern, spelled⟩ := isPattern_and_forall₂_of_parse h
  intro hnil
  rw [hnil] at spelled
  exact hpattern.ne_nil (List.forall₂_nil_right_iff.mp spelled)

/-- The instance of a pattern falls, where it is printed, into its values exactly if no variable
    brings a slash into it. Components of a path bring none, and may be empty. -/
theorem splitChar_display_iff_of_parse {p : Text} (hparse : parse p = .ok ns)
    (h : b.IsInstance ns path context) :
    Text.splitChar '/' b.display = [] :: b.elements.map Element.value ↔
      ns.VariablesFreeOfSlash context := by
  have ne : b.elements ≠ [] := by
    have hlength : ns.segments.length = b.elements.length := h.length_eq
    rw [← List.length_pos_iff, ← hlength, List.length_pos_iff]
    exact segments_ne_nil_of_parse hparse
  rw [BoundNamespace.splitChar_display_iff ne,
    slash_not_mem_iff h fun t => slash_not_mem_of_parse hparse]

/-- Binding succeeds exactly if every placeholder has a value, and otherwise reports the first one
    that has none. It gives an instance of the pattern, from whose text the values can be read off
    exactly if no variable has a slash in it. -/
theorem bind_shape (ns : Namespace) (path : Text) (context : Context) :
    ((∃ b, ns.bind path context = .ok b) ↔ ∀ d ∈ ns.placeholders, d.HasValue path context) ∧
      (∀ e, ns.bind path context = .error e ↔
        Placeholder.FirstWithoutValue path context ns.placeholders e) ∧
      ∀ b, ns.bind path context = .ok b → b.IsInstance ns path context ∧
        ∀ p, parse p = .ok ns →
          (Text.splitChar '/' b.display = [] :: b.elements.map Element.value ↔
            ns.VariablesFreeOfSlash context) := by
  have hok : (∀ d ∈ ns.placeholders, d.HasValue path context) →
      ∃ b, ns.bind path context = .ok b := by
    intro h
    obtain ⟨elements, helements⟩ := Segment.exists_bindAll h
    exact ⟨⟨elements⟩, by rw [bind, helements]; rfl⟩
  have herror : ∀ e, Placeholder.FirstWithoutValue path context ns.placeholders e →
      ns.bind path context = .error e := by
    intro e h
    rw [bind, Segment.bindAll_of_firstWithoutValue h]
    rfl
  have hcases := Placeholder.forall_hasValue_or_firstWithoutValue path context ns.placeholders
  refine ⟨⟨?_, hok⟩, fun e => ⟨fun h => ?_, herror e⟩, fun b h => ?_⟩
  · rintro ⟨b, hb⟩
    refine hcases.resolve_right ?_
    rintro ⟨e, he⟩
    cases hb.symm.trans (herror e he)
  · obtain hall | ⟨e', he'⟩ := hcases
    · obtain ⟨b, hb⟩ := hok hall
      cases h.symm.trans hb
    · cases h.symm.trans (herror e' he')
      exact he'
  · have hinstance := isInstance_of_bind h
    exact ⟨hinstance, fun p hparse => splitChar_display_iff_of_parse hparse hinstance⟩

/-- An empty component of a path keeps the shape, a variable with a slash does not; and of two
    placeholders without value the first is reported. -/
theorem bind_shape_samples :
    let p : Text := "/a/{f:path:-3}/{x}/z".toList
    let ns : Namespace := ⟨[.static ['a'], .placeholder ⟨['f'], "f:path:-3".toList, .path (-3)⟩,
      .placeholder ⟨['x'], ['x'], .variable⟩, .static ['z']]⟩
    let named : Text → Context := fun t name => if name = ['x'] then some (.text t) else none
    let bound : Text → BoundNamespace := fun t =>
      ⟨[⟨['a'], none⟩, ⟨[], some ['f']⟩, ⟨t, some ['x']⟩, ⟨['z'], none⟩]⟩
    parse p = .ok ns ∧
      ns.bind "/d/e".toList (named "1/461".toList) = .ok (bound "1/461".toList) ∧
      (bound "1/461".toList).display = "/a//1/461/z".toList ∧
      Text.splitChar '/' (bound "1/461".toList).display ≠
        [] :: (bound "1/461".toList).elements.map Element.value ∧
      ns.bind "/d/e".toList (named "1".toList) = .ok (bound "1".toList) ∧
      Text.splitChar '/' (bound "1".toList).display =
        [] :: (bound "1".toList).elements.map Element.value ∧
      ns.bind "d/e".toList (fun _ => none) = .error (.indexOutOfBounds (-3) "d/e".toList) := by
  intro p ns named bound
  have hparse : parse p = .ok ns := rfl
  have hx : Placeholder.mk ['x'] ['x'] .variable ∈ ns.placeholders := by decide
  have hplaceholders : ns.placeholders =
      [⟨['f'], "f:path:-3".toList, .path (-3)⟩, ⟨['x'], ['x'], .variable⟩] := rfl
  have hbind : ∀ t, ns.bind "/d/e".toList (named t) = .ok (bound t) := fun t => rfl
  have hshape : ∀ t, Text.splitChar '/' (bound t).display =
      [] :: (bound t).elements.map Element.value ↔ ns.VariablesFreeOfSlash (named t) := fun t =>
    ((bind_shape ns "/d/e".toList (named t)).2.2 _ (hbind t)).2 p hparse
  refine ⟨hparse, hbind _, rfl, fun h => ?_, hbind _, (hshape _).mpr ?_, ?_⟩
  · have hfree := (hshape _).mp h _ hx rfl (.text "1/461".toList) rfl
    exact absurd hfree (by decide)
  · intro d hd hvariable v hv
    rw [hplaceholders] at hd
    obtain rfl | rfl : d = _ ∨ d = _ := by simpa using hd
    · cases hvariable
    · obtain rfl := Option.some.inj hv
      decide
  · refine ((bind_shape ns "d/e".toList fun _ => none).2.1 _).mpr
      ⟨[], _, _, hplaceholders, nofun, .component rfl ?_⟩
    unfold IsIndexOf
    decide

end Namespace

end Telemetry
