import Telemetry.Proofs.Configuration.Loading
import Telemetry.Proofs.Namespace.Normalization

/-!
# The order of namespaces

The measures of a configuration stand in the order in which their patterns are written in the
document, byte by byte, and each pattern has one. Their namespaces are displayed in normal spelling,
without the padding and the empty parts that count in the order of the patterns. So the namespaces
are in the order of their spellings as far as taking those away keeps the order, and they are
different as far as it keeps patterns apart. Both is so for patterns in normal spelling.

## Main definitions

- `Configuration.IsSorted` — the namespaces of a configuration are in the order of their spellings
- `Namespace.SpellingsKeepOrder`, `Namespace.SpellingsDiffer` — what that takes of the patterns

## Main statements

- `Configuration.isSorted_iff` — the configurations whose namespaces are in order
- `Configuration.nodup_namespaces_iff` — the configurations whose namespaces are different
- `Configuration.load_sorted_iff` — both, for documents
- `Configuration.not_isSorted` — namespaces out of order, and one namespace with two expressions
-/

namespace Telemetry

-- ════════════════════════════════════════════════════════════════════════
-- Normal spellings of several patterns
-- ════════════════════════════════════════════════════════════════════════

namespace Namespace

/-- The normal spellings of two patterns are in order. -/
def SpellingsInOrder (p q : Text) : Prop :=
  ∃ p' q', normalize p = .ok p' ∧ normalize q = .ok q' ∧ Text.bytes p' < Text.bytes q'

/-- Patterns in order have normal spellings in order. -/
def SpellingsKeepOrder (patterns : List Text) : Prop :=
  ∀ p ∈ patterns, ∀ q ∈ patterns, Text.bytes p < Text.bytes q → SpellingsInOrder p q

/-- Different patterns have different normal spellings. -/
def SpellingsDiffer (patterns : List Text) : Prop :=
  ∀ p ∈ patterns, ∀ q ∈ patterns, normalize p = normalize q → p = q

variable {p q : Text} {ns ns' : Namespace}

theorem normalize_of_parse (h : parse p = .ok ns) : normalize p = .ok ns.display :=
  normalize_eq_ok_iff.mpr ⟨ns, h, rfl⟩

theorem spellingsInOrder_iff (hp : parse p = .ok ns) (hq : parse q = .ok ns') :
    SpellingsInOrder p q ↔ Text.bytes ns.display < Text.bytes ns'.display := by
  simp [SpellingsInOrder, normalize_of_parse hp, normalize_of_parse hq]

/-- Two patterns have the same normal spelling exactly if they are the same namespace. -/
theorem normalize_eq_iff (hp : parse p = .ok ns) (hq : parse q = .ok ns') :
    normalize p = normalize q ↔ ns = ns' := by
  rw [normalize_of_parse hp, normalize_of_parse hq, Except.ok.injEq]
  constructor
  · intro hdisplay
    have hread : parse ns.display = .ok ns := parse_display_eq hp
    rw [hdisplay, parse_display_eq hq] at hread
    exact (Except.ok.inj hread).symm
  · rintro rfl
    rfl

/-- Patterns in normal spelling are in the order of their normal spellings. -/
theorem spellingsKeepOrder_of_normal {patterns : List Text}
    (h : ∀ p ∈ patterns, normalize p = .ok p) : SpellingsKeepOrder patterns :=
  fun p hp q hq hlt => ⟨p, q, h p hp, h q hq, hlt⟩

end Namespace

namespace Configuration

open Namespace (SpellingsInOrder SpellingsKeepOrder SpellingsDiffer normalize)

/-- The namespaces of a configuration increase strictly, by the bytes of their spellings. -/
def IsSorted (c : Configuration) : Prop :=
  c.namespaces.Pairwise fun ns ns' => Text.bytes ns.display < Text.bytes ns'.display

instance (c : Configuration) : Decidable c.IsSorted :=
  inferInstanceAs (Decidable (List.Pairwise _ _))

-- ════════════════════════════════════════════════════════════════════════
-- One configuration
-- ════════════════════════════════════════════════════════════════════════

variable {raw : RawConfiguration} {entries : List (Text × Text)} {config : Configuration}

/-- The namespaces of a configuration are in order exactly if its patterns keep theirs. -/
theorem isSorted_iff (h : MetricsFrom raw entries) (hconfig : ofRaw raw = .ok config) :
    config.IsSorted ↔ SpellingsKeepOrder (entries.map Prod.fst) := by
  have hmeasures := forall₂_isMeasureOf hconfig
  rw [IsSorted, namespaces, List.pairwise_map,
    ← pairwise_iff_of_forall₂ hmeasures fun _ _ _ _ ha hb =>
      Namespace.spellingsInOrder_iff ha.1 hb.1,
    pairwise_iff_of_sorted (fun _ _ => List.lt_asymm) (pairwise_bytes raw.metrics)]
  simp only [SpellingsKeepOrder, ← mem_patterns_iff h, List.forall_mem_map]

/-- The namespaces of a configuration are different exactly if its patterns are spelled
    differently. -/
theorem nodup_namespaces_iff (h : MetricsFrom raw entries) (hconfig : ofRaw raw = .ok config) :
    config.namespaces.Nodup ↔ SpellingsDiffer (entries.map Prod.fst) := by
  have hmeasures := forall₂_isMeasureOf hconfig
  have hsorted : raw.metrics.toList.Pairwise fun a b => a.1 < b.1 := raw.metrics.sorted
  rw [namespaces, List.Nodup, List.pairwise_map,
    ← pairwise_iff_of_forall₂ hmeasures fun _ _ _ _ ha hb =>
      not_congr (Namespace.normalize_eq_iff ha.1 hb.1),
    pairwise_iff_of_sorted (fun _ _ => KeyOrder.not_lt_of_lt) hsorted]
  simp only [SpellingsDiffer, ← mem_patterns_iff h, List.forall_mem_map]
  constructor
  · intro hne a ha b hb heq
    exact KeyOrder.eq_of_not_lt (fun hlt => hne a ha b hb hlt heq)
      fun hgt => hne b hb a ha hgt heq.symm
  · intro heq a ha b hb hlt hnormalize
    exact KeyOrder.ne_of_lt hlt (heq a ha b hb hnormalize)

-- ════════════════════════════════════════════════════════════════════════
-- Documents
-- ════════════════════════════════════════════════════════════════════════

/-- Each configuration of a document that loads has its measures in the order of its patterns, one
    for each. Their namespaces are in the order of their spellings exactly if the patterns keep
    their order in normal spelling, and different exactly if the normal spellings are. Patterns that
    are written in normal spelling keep their order. -/
theorem load_sorted_iff {document : Text} {configs : List Configuration}
    (hload : load document = .ok configs) :
    ∃ lists, RawConfiguration.HaveMetrics document lists ∧
      (∀ lists', RawConfiguration.HaveMetrics document lists' → lists' = lists) ∧
      List.Forall₂ (fun entries config => HasMeasuresOf entries config ∧
        (config.IsSorted ↔ SpellingsKeepOrder (entries.map Prod.fst)) ∧
        (config.namespaces.Nodup ↔ SpellingsDiffer (entries.map Prod.fst)) ∧
        ((∀ p ∈ entries.map Prod.fst, normalize p = .ok p) → config.IsSorted)) lists configs := by
  obtain ⟨raws, lists, hlists, hunique, hfrom, hofRaw⟩ := exists_of_load hload
  refine ⟨lists, hlists, hunique, forall₂_of_common hfrom hofRaw ?_⟩
  intro raw entries config hentries hconfig
  have hiff := isSorted_iff hentries hconfig
  exact ⟨hasMeasuresOf_of_ofRaw hentries hconfig, hiff, nodup_namespaces_iff hentries hconfig,
    fun hnormal => hiff.mpr (Namespace.spellingsKeepOrder_of_normal hnormal)⟩

/-- Two patterns in normal spelling, the larger one first. -/
theorem load_sorted_iff_normal :
    let entries : List (Text × Text) := [("/b/x".toList, ['1']), ("/a".toList, ['2'])]
    ∃ config, load (pairedDocument ['f'] entries) = .ok [config] ∧ config.IsSorted ∧
      config.namespaces.Nodup := by
  intro entries
  have hload : ∃ config, load (pairedDocument ['f'] entries) = .ok [config] := by
    rw [load_pairedDocument]
    exact ⟨_, rfl⟩
  obtain ⟨config, hconfig⟩ := hload
  obtain ⟨lists, -, hunique, hall⟩ := load_sorted_iff hconfig
  obtain rfl := hunique [entries] (haveMetrics_pairedDocument ['f'] entries)
  obtain _ | ⟨⟨-, -, hnodup, hnormal⟩, -⟩ := hall
  have hnormal' : ∀ p ∈ entries.map Prod.fst, normalize p = .ok p :=
    List.forall_mem_cons.mpr ⟨rfl, List.forall_mem_singleton.mpr rfl⟩
  refine ⟨config, hconfig, hnormal hnormal', hnodup.mpr ?_⟩
  intro p hp q hq heq
  rw [hnormal' p hp, hnormal' q hq] at heq
  exact Except.ok.inj heq

/-- Not every configuration has its namespaces in order, since a blank in a pattern may be less than
    what stands in its place once it is stripped. And a pattern that is spelled twice gives one
    namespace two expressions. -/
theorem not_isSorted :
    let padded : List (Text × Text) := [("/ b".toList, ['1']), ("/a".toList, ['2'])]
    let twice : List (Text × Text) := [("/a".toList, ['1']), ("/a/".toList, ['2'])]
    (∃ config, load (pairedDocument ['x'] padded) = .ok [config] ∧
      config.namespaces.map Namespace.display = ["/b".toList, "/a".toList] ∧ ¬ config.IsSorted) ∧
    ∃ config, load (pairedDocument ['x'] twice) = .ok [config] ∧
      config.measures = [⟨⟨[.static ['a']]⟩, Expression.parse ['1']⟩,
        ⟨⟨[.static ['a']]⟩, Expression.parse ['2']⟩] ∧
      Expression.parse ['1'] ≠ Expression.parse ['2'] ∧ ¬ config.IsSorted := by
  intro padded twice
  refine ⟨?_, ?_⟩
  · exact ⟨_, (load_pairedDocument ['x'] padded).trans rfl, rfl, by decide⟩
  · exact ⟨_, (load_pairedDocument ['x'] twice).trans rfl, rfl, by decide, by decide⟩

end Configuration

end Telemetry
