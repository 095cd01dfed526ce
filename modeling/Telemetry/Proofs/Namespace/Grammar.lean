import Mathlib.Data.List.Forall2
import Telemetry.Proofs.Namespace.Directive
import Telemetry.Proofs.Text.Stripping

/-!
# The grammar of namespace patterns

A text is a namespace pattern if it starts with a slash, has parts, the first and the last of which
are not wrapped in braces, and has no part that is refused. Its segments are then what its parts
spell, in order. Any other text is rejected with one error: rules about the whole text come before
rules about its ends, and these before the first part that is refused.

## Main definitions

- `Namespace.IsCutInto` — the parts of a text
- `Text.IsWrapped` — a part is a placeholder by its braces
- `Segment.SpelledBy`, `Segment.Refused` — what a part means, and why it has no meaning
- `Namespace.IsPattern` — a text is a namespace pattern
- `Namespace.Rejected` — a text is not a namespace pattern, and why

## Main statements

- `Namespace.parts_eq_iff` — a text is cut into just these parts
- `Segment.parseAll_iff` — the segments of a list of parts
- `Namespace.isPattern_or_rejected` — the grammar settles every text
- `Namespace.parse_grammar` — reading a pattern follows the grammar
-/

namespace Telemetry

-- ════════════════════════════════════════════════════════════════════════
-- Parts
-- ════════════════════════════════════════════════════════════════════════

/-- A text is cut into parts: they are what is left of the pieces between its slashes without the
    spaces, tabs and newlines around them, but for pieces of which nothing is left. -/
inductive Namespace.IsCutInto (rest : Text) : List Text → Prop
  | mk {pieces kept : List Text} (ne : pieces ≠ []) (free : ∀ piece ∈ pieces, '/' ∉ piece)
      (joined : List.intercalate ['/'] pieces = rest)
      (strips : List.Forall₂ (Text.StripsTo fun c => c ∈ [' ', '\t', '\n']) pieces kept) :
      IsCutInto rest (kept.filter fun part => part ≠ [])

/-- The parts of a text are those into which it is cut. -/
theorem Namespace.parts_eq_iff {rest : Text} {ps : List Text} :
    parts rest = ps ↔ IsCutInto rest ps := by
  have hstrip : ∀ {piece kept : Text}, Text.strip isSegmentPadding piece = kept ↔
      Text.StripsTo (fun c => c ∈ [' ', '\t', '\n']) piece kept :=
    Text.strip_eq_iff fun _ => isSegmentPadding_iff
  have hempty : (fun part : Text => !part.isEmpty) = fun part => decide (part ≠ []) := by
    funext part
    cases part <;> rfl
  rw [parts, hempty]
  constructor
  · rintro rfl
    obtain ⟨ne, free, joined⟩ := Text.splitChar_eq_iff.mp (rfl : Text.splitChar '/' rest = _)
    refine .mk ne free joined (List.forall₂_map_right_iff.mpr ?_)
    exact List.forall₂_same.mpr fun piece _ => hstrip.mp rfl
  · rintro ⟨ne, free, joined, strips⟩
    have hsplit := Text.splitChar_eq_iff.mpr ⟨ne, free, joined⟩
    have hkept := List.forall₂_map_left_iff.mpr (strips.imp fun _ _ => hstrip.mpr)
    rw [List.forall₂_eq_eq_eq] at hkept
    rw [hsplit, hkept]

/-- A text starts with an opening brace and ends with a closing one. -/
def Text.IsWrapped (part : Text) : Prop :=
  part.head? = some '{' ∧ part.getLast? = some '}'

instance (part : Text) : Decidable part.IsWrapped :=
  inferInstanceAs (Decidable (_ ∧ _))

/-- The braces of a wrapped text are two characters. -/
theorem Text.isWrapped_iff {part : Text} :
    part.IsWrapped ↔ ∃ inside, part = '{' :: inside ++ ['}'] := by
  constructor
  · rintro ⟨first, last⟩
    obtain ⟨body, rfl⟩ := List.getLast?_eq_some_iff.mp last
    cases body with
    | nil => cases first
    | cons c inside =>
      cases first
      exact ⟨inside, rfl⟩
  · rintro ⟨inside, rfl⟩
    exact ⟨rfl, List.getLast?_concat⟩

theorem Text.isWrapped_iff_isSome_braced? {part : Text} :
    part.IsWrapped ↔ part.braced?.isSome := by
  rw [isWrapped_iff, Option.isSome_iff_exists]
  exact exists_congr fun inside => braced?_eq_some_iff.symm

/-- A part is the spelling of a segment. -/
inductive Segment.SpelledBy (part : Text) : Segment → Prop
  | static (plain : ¬ part.IsWrapped) : SpelledBy part (.static part)
  | placeholder {inside : Text} {d : Placeholder} (wrapped : part = '{' :: inside ++ ['}'])
      (spelled : Placeholder.SpelledBy inside d) : SpelledBy part (.placeholder d)

/-- A part is refused with an error, which is that of the directive between its braces. -/
def Segment.Refused (pattern part : Text) (e : PatternError) : Prop :=
  ∃ inside, part = '{' :: inside ++ ['}'] ∧ Placeholder.Refused pattern inside e

/-- A list of parts is refused with the error of the first of its parts that is refused. -/
def Segment.FirstRefused (pattern : Text) (parts : List Text) (e : PatternError) : Prop :=
  ∃ before part after, parts = before ++ part :: after ∧
    (∀ earlier ∈ before, ∀ e', ¬ Refused pattern earlier e') ∧ Refused pattern part e

section Parts

variable {pattern part : Text} {parts : List Text} {e : PatternError}

theorem Segment.exists_spelledBy_or_refused (pattern part : Text) :
    (∃ segment, SpelledBy part segment) ∨ ∃ e, Refused pattern part e := by
  by_cases hwrapped : part.IsWrapped
  · obtain ⟨inside, wrapped⟩ := Text.isWrapped_iff.mp hwrapped
    obtain ⟨d, spelled⟩ | ⟨e, refused⟩ := Placeholder.exists_spelledBy_or_refused pattern inside
    · exact .inl ⟨_, .placeholder wrapped spelled⟩
    · exact .inr ⟨e, inside, wrapped, refused⟩
  · exact .inl ⟨_, .static hwrapped⟩

/-- A part spells a segment exactly if it is not two bare braces and, wrapped around a positional
    directive, has an index for it. -/
theorem Segment.exists_spelledBy_iff :
    (∃ segment, SpelledBy part segment) ↔
      part ≠ ['{', '}'] ∧ ∀ inside last, part = '{' :: inside ++ ['}'] →
        IsPositional inside last → ∃ index, DenotesIndex last index := by
  constructor
  · rintro ⟨_, plain | @⟨inside, d, wrapped, spelled⟩⟩
    · refine ⟨?_, fun inside last wrapped => ?_⟩
      · rintro rfl
        exact absurd ⟨rfl, rfl⟩ plain
      · exact absurd (Text.isWrapped_iff.mpr ⟨inside, wrapped⟩) plain
    · obtain ⟨ne, indexed⟩ := Placeholder.exists_spelledBy_iff.mp ⟨d, spelled⟩
      subst wrapped
      refine ⟨by simpa using ne, fun inside' last wrapped => ?_⟩
      obtain rfl : inside = inside' := by simpa using wrapped
      exact indexed last
  · rintro ⟨nonempty, indexed⟩
    by_cases hwrapped : part.IsWrapped
    · obtain ⟨inside, rfl⟩ := Text.isWrapped_iff.mp hwrapped
      have hne : inside ≠ [] := by simpa using nonempty
      obtain ⟨d, spelled⟩ := Placeholder.exists_spelledBy_iff.mpr
        ⟨hne, fun last => indexed inside last rfl⟩
      exact ⟨_, .placeholder rfl spelled⟩
    · exact ⟨_, .static hwrapped⟩

theorem Segment.parse_of_spelledBy {segment : Segment} (h : SpelledBy part segment) :
    parse pattern part = .ok segment := by
  cases h with
  | static plain =>
    rw [Text.isWrapped_iff_isSome_braced?, Option.not_isSome_iff_eq_none] at plain
    simp [parse, plain]
  | placeholder wrapped spelled =>
    simp [parse, Text.braced?_eq_some_iff.mpr wrapped, Placeholder.parse_of_spelledBy spelled,
      Except.map]

theorem Segment.parse_of_refused (h : Refused pattern part e) : parse pattern part = .error e := by
  obtain ⟨inside, wrapped, refused⟩ := h
  simp [parse, Text.braced?_eq_some_iff.mpr wrapped, Placeholder.parse_of_refused refused,
    Except.map]

-- ════════════════════════════════════════════════════════════════════════
-- Lists of parts
-- ════════════════════════════════════════════════════════════════════════

/-- Either every part of a list spells a segment, or there is a first part that is refused. -/
theorem Segment.exists_forall₂_or_firstRefused (pattern : Text) (parts : List Text) :
    (∃ segments, List.Forall₂ SpelledBy parts segments) ∨
      ∃ e, FirstRefused pattern parts e := by
  induction parts with
  | nil => exact .inl ⟨[], .nil⟩
  | cons part parts ih =>
    by_cases hpart : ∃ e, Refused pattern part e
    · obtain ⟨e, refused⟩ := hpart
      exact .inr ⟨e, [], part, parts, rfl, by simp, refused⟩
    · obtain ⟨segment, spelled⟩ :=
        (exists_spelledBy_or_refused pattern part).resolve_right hpart
      obtain ⟨segments, hsegments⟩ | ⟨e, before, part', after, rfl, earlier, refused⟩ := ih
      · exact .inl ⟨segment :: segments, .cons spelled hsegments⟩
      · refine .inr ⟨e, part :: before, part', after, rfl, ?_, refused⟩
        exact List.forall_mem_cons.mpr ⟨not_exists.mp hpart, earlier⟩

theorem Segment.exists_forall₂_iff :
    (∃ segments, List.Forall₂ SpelledBy parts segments) ↔
      ∀ part ∈ parts, ∃ segment, SpelledBy part segment := by
  induction parts with
  | nil => exact ⟨fun _ => by simp, fun _ => ⟨[], .nil⟩⟩
  | cons part parts ih =>
    rw [List.forall_mem_cons, ← ih]
    constructor
    · rintro ⟨_, spelled | ⟨spelled, rest⟩⟩
      exact ⟨⟨_, spelled⟩, _, rest⟩
    · rintro ⟨⟨segment, spelled⟩, segments, rest⟩
      exact ⟨segment :: segments, .cons spelled rest⟩

theorem Segment.parseAll_of_forall₂ {segments : List Segment}
    (h : List.Forall₂ SpelledBy parts segments) : parseAll pattern parts = .ok segments := by
  induction h with
  | nil => rfl
  | cons spelled _ ih => simp [parseAll, parse_of_spelledBy spelled, ih, Except.map]

theorem Segment.parseAll_of_firstRefused (h : FirstRefused pattern parts e) :
    parseAll pattern parts = .error e := by
  obtain ⟨before, part, after, rfl, earlier, refused⟩ := h
  induction before with
  | nil => simp [parseAll, parse_of_refused refused]
  | cons first before ih =>
    obtain ⟨hfirst, hbefore⟩ := List.forall_mem_cons.mp earlier
    obtain ⟨segment, spelled⟩ :=
      (exists_spelledBy_or_refused pattern first).resolve_right (not_exists.mpr hfirst)
    simp [parseAll, parse_of_spelledBy spelled, ih hbefore, Except.map]

/-- Reading a list of parts gives the segments that its parts spell, and else the error with which
    it is refused. -/
theorem Segment.parseAll_iff (pattern : Text) (parts : List Text) :
    (∀ segments, parseAll pattern parts = .ok segments ↔ List.Forall₂ SpelledBy parts segments) ∧
      ∀ e, parseAll pattern parts = .error e ↔ FirstRefused pattern parts e :=
  ok_iff_and_error_iff_of_settled (fun _ => parseAll_of_forall₂) (fun _ => parseAll_of_firstRefused)
    (exists_forall₂_or_firstRefused pattern parts)

end Parts

-- ════════════════════════════════════════════════════════════════════════
-- Patterns
-- ════════════════════════════════════════════════════════════════════════

namespace Namespace

/-- A text is a namespace pattern. -/
structure IsPattern (p : Text) : Prop where
  slash : p.head? = some '/'
  ne_nil : parts p.tail ≠ []
  first : ∀ part ∈ (parts p.tail).head?, ¬ part.IsWrapped
  last : ∀ part ∈ (parts p.tail).getLast?, ¬ part.IsWrapped
  nonempty : ['{', '}'] ∉ parts p.tail
  /-- Every positional directive has an index. -/
  index : ∀ part ∈ parts p.tail, ∀ inside last, part = '{' :: inside ++ ['}'] →
    IsPositional inside last → ∃ index, DenotesIndex last index

/-- A text is not a namespace pattern. Where several rules are broken, the error is that of the
    first one in the order of the constructors, and among the parts that of the first refused
    one. -/
inductive Rejected : Text → PatternError → Prop
  | empty : Rejected [] .empty
  | noLeadingSlash {p : Text} (ne : p ≠ []) (slash : p.head? ≠ some '/') :
      Rejected p (.noLeadingSlash p)
  | noElements {rest : Text} (nil : parts rest = []) :
      Rejected ('/' :: rest) (.noElements ('/' :: rest))
  | placeholderFirst {rest first : Text} (head : (parts rest).head? = some first)
      (wrapped : first.IsWrapped) : Rejected ('/' :: rest) (.placeholderFirst ('/' :: rest))
  | placeholderLast {rest first last : Text} (head : (parts rest).head? = some first)
      (plain : ¬ first.IsWrapped) (getLast : (parts rest).getLast? = some last)
      (wrapped : last.IsWrapped) : Rejected ('/' :: rest) (.placeholderLast ('/' :: rest))
  | refused {rest first last part : Text} {before after : List Text} {e : PatternError}
      (head : (parts rest).head? = some first) (plainFirst : ¬ first.IsWrapped)
      (getLast : (parts rest).getLast? = some last) (plainLast : ¬ last.IsWrapped)
      (split : parts rest = before ++ part :: after)
      (earlier : ∀ q ∈ before, ∀ e', ¬ Segment.Refused ('/' :: rest) q e')
      (refused : Segment.Refused ('/' :: rest) part e) : Rejected ('/' :: rest) e

variable {p rest first last : Text} {e : PatternError}

/-- What is left to do once the ends of the parts are known. -/
theorem parse_of_ends (head : (parts rest).head? = some first)
    (getLast : (parts rest).getLast? = some last) :
    parse ('/' :: rest) =
      if first.IsWrapped then .error (.placeholderFirst ('/' :: rest))
      else if last.IsWrapped then .error (.placeholderLast ('/' :: rest))
      else (Segment.parseAll ('/' :: rest) (parts rest)).map fun segments => ⟨segments⟩ := by
  simp only [parse, head, getLast, Text.isWrapped_iff_isSome_braced?]

/-- The rules of a pattern behind its slash: both ends are static, and every part spells a
    segment. -/
theorem isPattern_cons_iff :
    IsPattern ('/' :: rest) ↔
      (∃ first, (parts rest).head? = some first ∧ ¬ first.IsWrapped) ∧
      (∃ last, (parts rest).getLast? = some last ∧ ¬ last.IsWrapped) ∧
      ∃ segments, List.Forall₂ Segment.SpelledBy (parts rest) segments := by
  rw [Segment.exists_forall₂_iff]
  simp only [Segment.exists_spelledBy_iff]
  constructor
  · rintro ⟨-, ne_nil, hfirst, hlast, nonempty, indexed⟩
    simp only [List.tail_cons] at ne_nil hfirst hlast nonempty indexed
    refine ⟨⟨_, List.head?_eq_some_head ne_nil, hfirst _ (List.head?_eq_some_head ne_nil)⟩,
      ⟨_, List.getLast?_eq_some_getLast ne_nil, hlast _ (List.getLast?_eq_some_getLast ne_nil)⟩,
      fun part hpart => ⟨?_, indexed part hpart⟩⟩
    rintro rfl
    exact nonempty hpart
  · rintro ⟨⟨first, head, plainFirst⟩, ⟨last, getLast, plainLast⟩, spelled⟩
    refine ⟨rfl, ?_, ?_, ?_, fun h => (spelled _ h).1 rfl, fun part hpart => (spelled part hpart).2⟩
    · intro hnil
      simp only [List.tail_cons] at hnil
      simp [hnil] at head
    · intro part hpart
      cases head.symm.trans hpart
      exact plainFirst
    · intro part hpart
      cases getLast.symm.trans hpart
      exact plainLast

/-- The grammar settles every text: it is a pattern, or it is rejected. -/
theorem isPattern_or_rejected (p : Text) : IsPattern p ∨ ∃ e, Rejected p e := by
  by_cases hp : p = []
  · subst hp
    exact .inr ⟨_, .empty⟩
  by_cases hslash : p.head? = some '/'
  · obtain ⟨rest, rfl⟩ := List.head?_eq_some_iff.mp hslash
    by_cases hnil : parts rest = []
    · exact .inr ⟨_, .noElements hnil⟩
    have head := List.head?_eq_some_head hnil
    have getLast := List.getLast?_eq_some_getLast hnil
    by_cases hfirst : ((parts rest).head hnil).IsWrapped
    · exact .inr ⟨_, .placeholderFirst head hfirst⟩
    by_cases hlast : ((parts rest).getLast hnil).IsWrapped
    · exact .inr ⟨_, .placeholderLast head hfirst getLast hlast⟩
    obtain spelled | ⟨e, before, part, after, split, earlier, refused⟩ :=
      Segment.exists_forall₂_or_firstRefused ('/' :: rest) (parts rest)
    · exact .inl (isPattern_cons_iff.mpr ⟨⟨_, head, hfirst⟩, ⟨_, getLast, hlast⟩, spelled⟩)
    · exact .inr ⟨e, .refused head hfirst getLast hlast split earlier refused⟩
  · exact .inr ⟨_, .noLeadingSlash hp hslash⟩

theorem Rejected.parse_eq (h : Rejected p e) : parse p = .error e := by
  cases h with
  | empty => rfl
  | noLeadingSlash ne slash =>
    unfold parse
    split
    · exact absurd rfl ne
    · exact absurd rfl slash
    · rfl
  | noElements nil => simp [parse, nil]
  | placeholderFirst head wrapped =>
    have hne := List.ne_nil_of_mem (List.mem_of_head? head)
    rw [parse_of_ends head (List.getLast?_eq_some_getLast hne), if_pos wrapped]
  | placeholderLast head plain getLast wrapped =>
    rw [parse_of_ends head getLast, if_neg plain, if_pos wrapped]
  | refused head plainFirst getLast plainLast split earlier refused =>
    rw [parse_of_ends head getLast, if_neg plainFirst, if_neg plainLast,
      Segment.parseAll_of_firstRefused ⟨_, _, _, split, earlier, refused⟩]
    rfl

theorem parse_of_forall₂ {ns : Namespace} (h : IsPattern p)
    (spelled : List.Forall₂ Segment.SpelledBy (parts p.tail) ns.segments) : parse p = .ok ns := by
  obtain ⟨rest, rfl⟩ := List.head?_eq_some_iff.mp h.slash
  obtain ⟨⟨first, head, plainFirst⟩, ⟨last, getLast, plainLast⟩, -⟩ := isPattern_cons_iff.mp h
  rw [List.tail_cons] at spelled
  rw [parse_of_ends head getLast, if_neg plainFirst, if_neg plainLast,
    Segment.parseAll_of_forall₂ spelled]
  rfl

theorem IsPattern.exists_forall₂ (h : IsPattern p) :
    ∃ ns : Namespace, List.Forall₂ Segment.SpelledBy (parts p.tail) ns.segments := by
  obtain ⟨rest, rfl⟩ := List.head?_eq_some_iff.mp h.slash
  obtain ⟨-, -, segments, spelled⟩ := isPattern_cons_iff.mp h
  exact ⟨⟨segments⟩, spelled⟩

/-- Reading accepts exactly the texts that are namespace patterns. The namespace has the segments
    that the parts spell, part by part; every other text is rejected with the error of the first
    rule that it breaks. The parts are those into which the text behind its first character is
    cut. -/
theorem parse_grammar (p : Text) :
    ((∃ ns, parse p = .ok ns) ↔ IsPattern p) ∧
      (∀ ns, parse p = .ok ns ↔
        IsPattern p ∧ List.Forall₂ Segment.SpelledBy (parts p.tail) ns.segments) ∧
      (∀ e, parse p = .error e ↔ Rejected p e) ∧
      ∀ ps, parts p.tail = ps ↔ IsCutInto p.tail ps := by
  have settled : (∃ ns : Namespace, IsPattern p ∧
      List.Forall₂ Segment.SpelledBy (parts p.tail) ns.segments) ∨ ∃ e, Rejected p e := by
    obtain h | h := isPattern_or_rejected p
    · obtain ⟨ns, spelled⟩ := h.exists_forall₂
      exact .inl ⟨ns, h, spelled⟩
    · exact .inr h
  obtain ⟨ok, error⟩ := ok_iff_and_error_iff_of_settled
    (fun _ h => parse_of_forall₂ h.1 h.2) (fun _ => Rejected.parse_eq) settled
  refine ⟨⟨?_, fun h => ?_⟩, ok, error, fun ps => parts_eq_iff⟩
  · rintro ⟨ns, hparse⟩
    exact ((ok ns).mp hparse).1
  · obtain ⟨ns, spelled⟩ := h.exists_forall₂
    exact ⟨ns, (ok ns).mpr ⟨h, spelled⟩⟩

/-- Padding and empty parts are dropped, and a directive of four pieces names a variable. -/
example : parse "/a/ \x7bx:path:1:2\x7d //b".toList =
    .ok ⟨[.static ['a'], .placeholder ⟨['x'], "x:path:1:2".toList, .variable⟩, .static ['b']]⟩ :=
  rfl

end Namespace

end Telemetry
