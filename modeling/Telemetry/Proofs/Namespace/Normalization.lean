import Telemetry.Proofs.Namespace.Grammar
import Telemetry.Proofs.Text.Stripping

/-!
# Normal spellings of namespace patterns

The parts of a pattern hold no slash, have no padding and are not empty, so joined by slashes they
are cut into the same parts again. A segment is displayed as the part that spells it. A pattern and
its normal spelling therefore mean the same, and a normal spelling is its own normal spelling.

## Main definitions

- `Namespace.IsPart` — a text can be a part of a pattern
- `Namespace.normalize` — the normal spelling of the pattern of a text

## Main statements

- `Namespace.parts_join` — parts joined by slashes are cut into the same parts
- `Segment.SpelledBy.display_eq` — a segment is displayed as the part that spells it
- `Namespace.count_display` — what is lost in a normal spelling
- `Namespace.parse_display` — the normal spelling of a pattern means the pattern
-/

namespace Telemetry

namespace Namespace

/-- A text can be a part of a pattern: it has no slash and no padding, and is not empty. -/
structure IsPart (part : Text) : Prop where
  noSlash : '/' ∉ part
  stripped : Text.strip isSegmentPadding part = part
  ne_nil : part ≠ []

theorem isPart_of_mem_parts {rest part : Text} (h : part ∈ parts rest) : IsPart part := by
  rw [parts, List.mem_filter, List.mem_map] at h
  obtain ⟨⟨piece, hpiece, rfl⟩, hne⟩ := h
  have hslash : '/' ∉ piece := Text.not_mem_of_mem_splitChar hpiece
  exact
    { noSlash := fun hmem => hslash (Text.mem_of_mem_strip hmem)
      stripped := Text.strip_strip _ _
      ne_nil := by simpa using hne }

/-- Parts joined by slashes are cut into the same parts. -/
theorem parts_join {ps : List Text} (h : ∀ part ∈ ps, IsPart part) :
    parts (Text.join ['/'] ps) = ps := by
  by_cases hnil : ps = []
  · subst hnil
    rfl
  have hsplit : Text.splitChar '/' (Text.join ['/'] ps) = ps :=
    Text.splitChar_join (fun part hpart => (h part hpart).noSlash) hnil
  have hstrip : ps.map (Text.strip isSegmentPadding) = ps :=
    (List.map_congr_left fun part hpart => (h part hpart).stripped).trans (List.map_id ps)
  have hkeep : ps.filter (fun part => !part.isEmpty) = ps :=
    List.filter_eq_self.mpr fun part hpart => by simpa using (h part hpart).ne_nil
  rw [parts, hsplit, hstrip, hkeep]

end Namespace

-- ════════════════════════════════════════════════════════════════════════
-- Displayed segments
-- ════════════════════════════════════════════════════════════════════════

/-- A placeholder keeps the directive that spells it. -/
theorem Placeholder.SpelledBy.description_eq {description : Text} {d : Placeholder}
    (h : SpelledBy description d) : d.description = description := by
  cases h <;> rfl

/-- A segment is displayed as the part that spells it. -/
theorem Segment.SpelledBy.display_eq {part : Text} {segment : Segment}
    (h : SpelledBy part segment) : segment.display = part := by
  cases h with
  | static => rfl
  | placeholder wrapped spelled => rw [display, spelled.description_eq, wrapped]

theorem Segment.map_display_eq {ps : List Text} {segments : List Segment}
    (h : List.Forall₂ SpelledBy ps segments) : segments.map display = ps := by
  induction h with
  | nil => rfl
  | cons spelled _ ih => rw [List.map_cons, spelled.display_eq, ih]

-- ════════════════════════════════════════════════════════════════════════
-- Normal spellings
-- ════════════════════════════════════════════════════════════════════════

namespace Namespace

/-- The normal spelling of the pattern of a text. -/
def normalize (p : Text) : Except PatternError Text :=
  (parse p).map display

variable {p q : Text} {ns ns' : Namespace}

/-- A text that is read as a pattern is one, and its parts spell the segments. -/
theorem isPattern_and_forall₂_of_parse (h : parse p = .ok ns) :
    IsPattern p ∧ List.Forall₂ Segment.SpelledBy (parts p.tail) ns.segments := by
  obtain hpattern | ⟨e, hrejected⟩ := isPattern_or_rejected p
  · obtain ⟨ns', spelled⟩ := hpattern.exists_forall₂
    have hparse : parse p = .ok ns' := parse_of_forall₂ hpattern spelled
    cases h.symm.trans hparse
    exact ⟨hpattern, spelled⟩
  · cases h.symm.trans hrejected.parse_eq

/-- A normal spelling is a slash and the parts of the text that was read. -/
theorem display_eq_join (h : parse p = .ok ns) :
    ns.display = '/' :: Text.join ['/'] (parts p.tail) := by
  obtain ⟨-, spelled⟩ := isPattern_and_forall₂_of_parse h
  rw [display, Segment.map_display_eq spelled]

/-- The parts of a normal spelling are those of the text that was read. -/
theorem parts_display (h : parse p = .ok ns) : parts ns.display.tail = parts p.tail := by
  rw [display_eq_join h, List.tail_cons]
  exact parts_join fun part hpart => isPart_of_mem_parts hpart

/-- Nothing but padding and slashes is lost when a text is cut into parts. -/
theorem count_parts {c : Char} (hpadding : isSegmentPadding c = false) (hslash : c ≠ '/')
    (rest : Text) : (parts rest).flatten.count c = rest.count c := by
  have hpieces : (Text.splitChar '/' rest).flatten.count c = rest.count c := by
    rw [← Text.count_join (List.mem_singleton.not.mpr hslash), Text.join_splitChar]
  rw [parts, List.flatten_filter_not_isEmpty, ← hpieces, List.count_flatten, List.count_flatten,
    List.map_map]
  exact congrArg List.sum (List.map_congr_left fun piece _ => Text.count_strip hpadding piece)

/-- Nothing but padding and slashes is lost in a normal spelling. -/
theorem count_display (h : parse p = .ok ns) {c : Char} (hpadding : isSegmentPadding c = false)
    (hslash : c ≠ '/') : ns.display.count c = p.count c := by
  obtain ⟨⟨hhead, -, -, -, -, -⟩, -⟩ := isPattern_and_forall₂_of_parse h
  obtain ⟨rest, rfl⟩ := List.head?_eq_some_iff.mp hhead
  rw [display_eq_join h, List.tail_cons, List.count_cons_of_ne hslash.symm,
    List.count_cons_of_ne hslash.symm, Text.count_join (List.mem_singleton.not.mpr hslash),
    count_parts hpadding hslash]

/-- All rules of a pattern but the first are about its parts. -/
theorem IsPattern.of_parts_eq (h : IsPattern p) (slash : q.head? = some '/')
    (hparts : parts q.tail = parts p.tail) : IsPattern q where
  slash := slash
  ne_nil := hparts ▸ h.ne_nil
  first := hparts ▸ h.first
  last := hparts ▸ h.last
  nonempty := hparts ▸ h.nonempty
  index := hparts ▸ h.index

theorem parse_display_eq (h : parse p = .ok ns) : parse ns.display = .ok ns := by
  have hparts : parts ns.display.tail = parts p.tail := parts_display h
  obtain ⟨hpattern, spelled⟩ := isPattern_and_forall₂_of_parse h
  refine parse_of_forall₂ (hpattern.of_parts_eq rfl hparts) ?_
  rw [hparts]
  exact spelled

theorem normalize_eq_ok_iff : normalize p = .ok q ↔ ∃ ns, parse p = .ok ns ∧ ns.display = q := by
  unfold normalize
  cases parse p with
  | error e => simp [Except.map]
  | ok ns => simp [Except.map]

/-- The normal spelling of a pattern means the pattern: the same segments are read from it, with all
    they hold. So patterns with the same normal spelling are the same, and a normal spelling is its
    own normal spelling. -/
theorem parse_display :
    (∀ p ns, parse p = .ok ns → parse ns.display = .ok ns) ∧
      (∀ p p' ns ns', parse p = .ok ns → parse p' = .ok ns' → ns.display = ns'.display →
        ns = ns') ∧
      ∀ p q, normalize p = .ok q → normalize q = .ok q := by
  refine ⟨fun p ns => parse_display_eq, fun p p' ns ns' h h' heq => ?_, fun p q h => ?_⟩
  · have hread : parse ns.display = .ok ns := parse_display_eq h
    have hread' : parse ns'.display = .ok ns' := parse_display_eq h'
    rw [heq, hread'] at hread
    exact (Except.ok.inj hread).symm
  · obtain ⟨ns, hparse, rfl⟩ := normalize_eq_ok_iff.mp h
    exact normalize_eq_ok_iff.mpr ⟨ns, parse_display_eq hparse, rfl⟩

/-- The normal spelling of a pattern with padding and empty parts has neither, and still means a
    positional placeholder whose index is written with a sign and a zero. -/
theorem parse_display_padded :
    let p : Text := "/a/ \x7bx:path:+01\x7d \t//b".toList
    let ns : Namespace :=
      ⟨[.static ['a'], .placeholder ⟨['x'], "x:path:+01".toList, .path 1⟩, .static ['b']]⟩
    parse p = .ok ns ∧ ns.display = "/a/\x7bx:path:+01\x7d/b".toList ∧
      parse ns.display = .ok ns ∧ normalize ns.display = .ok ns.display := by
  intro p ns
  have hparse : parse p = .ok ns := rfl
  refine ⟨hparse, rfl, parse_display.1 p ns hparse, ?_⟩
  exact parse_display.2.2 p ns.display (normalize_eq_ok_iff.mpr ⟨ns, hparse, rfl⟩)

end Namespace

end Telemetry
