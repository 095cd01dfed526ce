import Telemetry.Proofs.Collector.Cache
import Telemetry.Proofs.Configuration.Decoding
import Telemetry.Proofs.Configuration.Documents
import Telemetry.Proofs.Basic

/-!
# All or nothing

A document loads as a whole or not at all. Three orders meet when it is loaded: a document is
decoded in the order of its text, its configurations are gone through in the order of the array, and
the patterns of a configuration in the order of their bytes. So a document that is not decoded fails
for that, whatever its patterns are; and of all patterns that are refused, the least one in the
first configuration that has one is reported, wherever it stands there.

## Main definitions

- `Configuration.Accepted` — all patterns of a list are accepted
- `Configuration.LeastRefused` — the refused pattern of a list that is the least by its bytes
- `Configuration.FirstRefused` — the refused pattern of a document that is reported
- `Configuration.HasMeasuresOf` — the measures of a configuration, from its entries in the document
- `Configuration.pairedDocument` — the document with one configuration that has some metrics

## Main statements

- `Configuration.ofRaw_eq_error_iff`, `Configuration.ofRawAll_eq_error_iff` — what is reported
- `Configuration.hasMeasuresOf_of_ofRaw` — what is loaded
- `Configuration.load_entirely` — both, for documents, and what is left of a failure
-/

namespace Telemetry

namespace Configuration

open Json (Draft)

-- ════════════════════════════════════════════════════════════════════════
-- Refused patterns
-- ════════════════════════════════════════════════════════════════════════

/-- All patterns are accepted. -/
def Accepted (patterns : List Text) : Prop :=
  ∀ p ∈ patterns, ∃ ns, Namespace.parse p = .ok ns

/-- Of several patterns, the one that is refused and is less than all others that are, by the order
    of their bytes. -/
structure LeastRefused (patterns : List Text) (p : Text) (e : PatternError) : Prop where
  mem : p ∈ patterns
  refused : Namespace.parse p = .error e
  least : ∀ q ∈ patterns, (∃ e, Namespace.parse q = .error e) → q = p ∨ Text.bytes p < Text.bytes q

variable {patterns : List Text} {p : Text} {e : PatternError}

theorem LeastRefused.not_accepted (h : LeastRefused patterns p e) : ¬ Accepted patterns := by
  intro haccepted
  obtain ⟨ns, hns⟩ := haccepted p h.mem
  cases hns.symm.trans h.refused

theorem LeastRefused.unique {q : Text} {e' : PatternError} (h : LeastRefused patterns p e)
    (h' : LeastRefused patterns q e') : e = e' := by
  have hsame : p = q := by
    rcases h'.least p h.mem ⟨e, h.refused⟩ with heq | hqp
    · exact heq
    · rcases h.least q h'.mem ⟨e', h'.refused⟩ with heq | hpq
      · exact heq.symm
      · exact absurd (List.lt_trans hpq hqp) (List.lt_irrefl _)
  subst hsame
  exact Except.error.inj (h.refused.symm.trans h'.refused)

/-- Which pattern is the least does not depend on where the patterns stand, or how often. -/
theorem leastRefused_congr {patterns' : List Text} (h : ∀ q, q ∈ patterns ↔ q ∈ patterns') :
    LeastRefused patterns p e ↔ LeastRefused patterns' p e :=
  ⟨fun ⟨hmem, hrefused, hleast⟩ => ⟨(h p).mp hmem, hrefused, fun q hq => hleast q ((h q).mpr hq)⟩,
    fun ⟨hmem, hrefused, hleast⟩ => ⟨(h p).mpr hmem, hrefused, fun q hq => hleast q ((h q).mp hq)⟩⟩

/-- Of patterns in increasing order, the first that is refused is the least. -/
theorem leastRefused_cons (hless : ∀ q ∈ patterns, Text.bytes p < Text.bytes q)
    (hp : Namespace.parse p = .error e) : LeastRefused (p :: patterns) p e := by
  refine ⟨List.mem_cons_self, hp, fun q hq _ => ?_⟩
  rcases List.mem_cons.mp hq with rfl | hq
  · exact .inl rfl
  · exact .inr (hless q hq)

/-- A pattern that is accepted plays no part. -/
theorem leastRefused_cons_iff {q : Text} {ns : Namespace} (hq : Namespace.parse q = .ok ns) :
    LeastRefused (q :: patterns) p e ↔ LeastRefused patterns p e := by
  have hother : ∀ p e, Namespace.parse p = .error e → p ≠ q := by
    rintro p e hp rfl
    cases hp.symm.trans hq
  constructor
  · rintro ⟨hmem, hrefused, hleast⟩
    exact ⟨(List.mem_cons.mp hmem).resolve_left (hother p e hrefused), hrefused,
      fun r hr => hleast r (List.mem_cons_of_mem q hr)⟩
  · rintro ⟨hmem, hrefused, hleast⟩
    refine ⟨List.mem_cons_of_mem q hmem, hrefused, fun r hr hrefused' => ?_⟩
    obtain ⟨e', he'⟩ := hrefused'
    exact hleast r ((List.mem_cons.mp hr).resolve_left (hother r e' he')) ⟨e', he'⟩

-- ════════════════════════════════════════════════════════════════════════
-- One configuration
-- ════════════════════════════════════════════════════════════════════════

theorem ofEntries_eq_error_iff {file : Text} {entries : List (Text × Text)} {d : ConfigurationError}
    (hsorted : entries.Pairwise fun a b => Text.bytes a.1 < Text.bytes b.1) :
    Measure.ofEntries file entries = .error d ↔
      ∃ p e, LeastRefused (entries.map Prod.fst) p e ∧ d = .pattern file e := by
  induction entries with
  | nil =>
    constructor
    · nofun
    · rintro ⟨p, e, hleast, -⟩
      cases hleast.mem
  | cons entry entries ih =>
    obtain ⟨q, x⟩ := entry
    obtain ⟨hless, hsorted⟩ := List.pairwise_cons.mp hsorted
    rw [Measure.ofEntries, List.map_cons]
    cases hq : Namespace.parse q with
    | error e =>
      -- All other patterns are larger, so nothing behind this one matters.
      have hleast := leastRefused_cons (List.forall_mem_map.mpr hless) hq
      constructor
      · rintro ⟨⟩
        exact ⟨q, e, hleast, rfl⟩
      · rintro ⟨p, e', hleast', rfl⟩
        rw [hleast.unique hleast']
    | ok ns =>
      simp only [leastRefused_cons_iff hq, ← ih hsorted]
      exact map_eq_error_iff

theorem forall₂_of_ofEntries {file : Text} {entries : List (Text × Text)} {measures : List Measure}
    (h : Measure.ofEntries file entries = .ok measures) :
    List.Forall₂ IsMeasureOf entries measures := by
  fun_induction Measure.ofEntries file entries generalizing measures with
  | case1 =>
    cases h
    exact .nil
  | case2 => cases h
  | case3 p x entries ns hns ih =>
    obtain ⟨rest, hrest, rfl⟩ := exists_of_map_eq_ok h
    exact .cons ⟨hns, rfl⟩ (ih hrest)

/-- A configuration has one measure for each pattern in some entries, in the order of their bytes,
    with the expression that stands last for it. -/
def HasMeasuresOf (entries : List (Text × Text)) (config : Configuration) : Prop :=
  ∃ kept : List (Text × Text), List.Forall₂ IsMeasureOf kept config.measures ∧
    kept.Pairwise (fun a b => Text.bytes a.1 < Text.bytes b.1) ∧
    ∀ p x, (p, x) ∈ kept ↔
      ∃ before after, entries = before ++ (p, x) :: after ∧ p ∉ after.map Prod.fst

variable {raw : RawConfiguration} {entries : List (Text × Text)}

theorem mem_patterns_iff (h : MetricsFrom raw entries) (p : Text) :
    p ∈ raw.metrics.toList.map Prod.fst ↔ p ∈ entries.map Prod.fst := by
  rw [← SortedMap.contains_ofList_iff, SortedMap.ofList_of_perm (.refl _), h,
    SortedMap.contains_ofList_iff]

theorem patternsParse_iff (h : MetricsFrom raw entries) :
    PatternsParse raw ↔ Accepted (entries.map Prod.fst) := by
  simp only [PatternsParse, Accepted, ← mem_patterns_iff h, List.forall_mem_map]

/-- A configuration is refused for the least of its patterns that are. -/
theorem ofRaw_eq_error_iff (h : MetricsFrom raw entries) {d : ConfigurationError} :
    ofRaw raw = .error d ↔
      ∃ p e, LeastRefused (entries.map Prod.fst) p e ∧ d = .pattern raw.file e := by
  simp only [← leastRefused_congr (mem_patterns_iff h),
    ← ofEntries_eq_error_iff (pairwise_bytes raw.metrics)]
  exact map_eq_error_iff

theorem forall₂_isMeasureOf {config : Configuration} (h : ofRaw raw = .ok config) :
    List.Forall₂ IsMeasureOf raw.metrics.toList config.measures := by
  obtain ⟨measures, hmeasures, rfl⟩ := exists_of_map_eq_ok h
  exact forall₂_of_ofEntries hmeasures

/-- A configuration that is not refused has a measure for each of its patterns. -/
theorem hasMeasuresOf_of_ofRaw (h : MetricsFrom raw entries) {config : Configuration}
    (hconfig : ofRaw raw = .ok config) : HasMeasuresOf entries config := by
  refine ⟨raw.metrics.toList, forall₂_isMeasureOf hconfig, pairwise_bytes raw.metrics, ?_⟩
  intro p x
  rw [← SortedMap.get?_eq_some_iff, h, SortedMap.get?_ofList_eq_some_iff_append]

theorem accepted_of_ofRaw (h : MetricsFrom raw entries) {config : Configuration}
    (hconfig : ofRaw raw = .ok config) : Accepted (entries.map Prod.fst) := by
  refine (patternsParse_iff h).mp fun entry hentry => ?_
  obtain ⟨m, -, hm⟩ := exists_mem_of_forall₂ (forall₂_isMeasureOf hconfig).flip hentry
  exact ⟨m.target, hm.1⟩

-- ════════════════════════════════════════════════════════════════════════
-- Several configurations
-- ════════════════════════════════════════════════════════════════════════

/-- The refused pattern of several configurations that is reported, with the files of the
    configuration: the least one in the first configuration that has one. -/
def FirstRefused (raws : List RawConfiguration) (lists : List (List (Text × Text))) (file : Text)
    (e : PatternError) : Prop :=
  ∃ (i : Nat) (raw : RawConfiguration) (entries : List (Text × Text)) (p : Text),
    raws[i]? = some raw ∧ lists[i]? = some entries ∧ raw.file = file ∧
      LeastRefused (entries.map Prod.fst) p e ∧
      ∀ j < i, ∀ earlier, lists[j]? = some earlier → Accepted (earlier.map Prod.fst)

variable {raws : List RawConfiguration} {lists : List (List (Text × Text))} {file : Text}

theorem firstRefused_cons_iff_of_leastRefused (h : LeastRefused (entries.map Prod.fst) p e)
    {e' : PatternError} :
    FirstRefused (raw :: raws) (entries :: lists) file e' ↔ raw.file = file ∧ e = e' := by
  constructor
  · rintro ⟨i, raw', entries', p', hraw, hentries, hfile, hleast, hearlier⟩
    cases i with
    | zero =>
      cases hraw
      cases hentries
      exact ⟨hfile, h.unique hleast⟩
    | succ i => exact absurd (hearlier 0 i.succ_pos entries rfl) h.not_accepted
  · rintro ⟨hfile, rfl⟩
    exact ⟨0, raw, entries, p, rfl, rfl, hfile, h, nofun⟩

theorem firstRefused_cons_iff_of_accepted (h : Accepted (entries.map Prod.fst)) :
    FirstRefused (raw :: raws) (entries :: lists) file e ↔ FirstRefused raws lists file e := by
  constructor
  · rintro ⟨i, raw', entries', p', hraw, hentries, hfile, hleast, hearlier⟩
    cases i with
    | zero =>
      cases hentries
      exact absurd h hleast.not_accepted
    | succ i =>
      exact ⟨i, raw', entries', p', hraw, hentries, hfile, hleast,
        fun j hj => hearlier (j + 1) (Nat.succ_lt_succ hj)⟩
  · rintro ⟨i, raw', entries', p', hraw, hentries, hfile, hleast, hearlier⟩
    refine ⟨i + 1, raw', entries', p', hraw, hentries, hfile, hleast, fun j hj earlier hj' => ?_⟩
    cases j with
    | zero =>
      cases hj'
      exact h
    | succ j => exact hearlier j (Nat.lt_of_succ_lt_succ hj) earlier hj'

/-- Configurations are refused for the first of their refused patterns. -/
theorem ofRawAll_eq_error_iff (h : List.Forall₂ MetricsFrom raws lists) {d : ConfigurationError} :
    ofRawAll raws = .error d ↔ ∃ file e, FirstRefused raws lists file e ∧ d = .pattern file e := by
  induction h with
  | nil =>
    constructor
    · nofun
    · rintro ⟨file, e, ⟨i, raw, entries, p, hraw, -⟩, -⟩
      cases hraw
  | @cons raw entries raws lists hraw _ ih =>
    rw [ofRawAll]
    cases hconfig : ofRaw raw with
    | error d' =>
      obtain ⟨p, e, hleast, rfl⟩ := (ofRaw_eq_error_iff hraw).mp hconfig
      simp only [firstRefused_cons_iff_of_leastRefused hleast]
      constructor
      · rintro ⟨⟩
        exact ⟨raw.file, e, ⟨rfl, rfl⟩, rfl⟩
      · rintro ⟨file, e', ⟨rfl, rfl⟩, rfl⟩
        rfl
    | ok config =>
      simp only [firstRefused_cons_iff_of_accepted (accepted_of_ofRaw hraw hconfig), ← ih]
      exact map_eq_error_iff

theorem forall₂_ofRaw {configs : List Configuration} (h : ofRawAll raws = .ok configs) :
    List.Forall₂ (fun raw config => ofRaw raw = .ok config) raws configs := by
  fun_induction ofRawAll raws generalizing configs with
  | case1 =>
    cases h
    exact .nil
  | case2 => cases h
  | case3 raw raws config hconfig ih =>
    obtain ⟨rest, hrest, rfl⟩ := exists_of_map_eq_ok h
    exact .cons hconfig (ih hrest)

theorem forall₂_hasMeasuresOf (h : List.Forall₂ MetricsFrom raws lists)
    {configs : List Configuration} (hconfigs : ofRawAll raws = .ok configs) :
    List.Forall₂ HasMeasuresOf lists configs :=
  forall₂_of_common h (forall₂_ofRaw hconfigs) fun _ _ _ hraw => hasMeasuresOf_of_ofRaw hraw

theorem exists_ofRawAll_eq_ok_iff (h : List.Forall₂ MetricsFrom raws lists) :
    (∃ configs, ofRawAll raws = .ok configs) ↔
      ∀ entries ∈ lists, Accepted (entries.map Prod.fst) := by
  constructor
  · rintro ⟨configs, hconfigs⟩ entries hentries
    obtain ⟨raw, hraw, hfrom⟩ := exists_mem_of_forall₂ h hentries
    obtain ⟨config, -, hconfig⟩ := exists_mem_of_forall₂ (forall₂_ofRaw hconfigs).flip hraw
    exact accepted_of_ofRaw hfrom hconfig
  · intro haccepted
    have hparse : ∀ raw ∈ raws, PatternsParse raw := by
      intro raw hraw
      obtain ⟨entries, hentries, hfrom⟩ := exists_mem_of_forall₂ h.flip hraw
      exact (patternsParse_iff hfrom).mpr (haccepted entries hentries)
    obtain ⟨configs, hconfigs, -⟩ := ofRawAll_of_patternsParse hparse
    exact ⟨configs, hconfigs⟩

-- ════════════════════════════════════════════════════════════════════════
-- Documents with one configuration
-- ════════════════════════════════════════════════════════════════════════

section Paired

open Json (memberDrafts textMembers)

variable (file : Text) (entries : List (Text × Text))

/-- The array of one configuration, of paired lines in some files, that has some metrics. -/
def pairedValue : Json :=
  .array [.object [("file".toList, .string file), ("metrics".toList, .object (textMembers entries)),
    ("parser".toList, .object [("format".toList, .string "key-row".toList)])]]

/-- The document with one configuration, of paired lines in some files, that has some metrics. -/
def pairedDocument : Text :=
  (pairedValue file entries).render

/-- The raw configuration of such a document. -/
def pairedConfiguration : RawConfiguration :=
  ⟨file, .ofList entries, .empty, .keyRow⟩

/-- The draft of the configuration of such a document. -/
def pairedDraft : Draft :=
  .object [(some fileKey, .string (some file)),
    (some metricsKey, .object (memberDrafts (textMembers entries)) none),
    (some parserKey, .object [(some "format".toList, .string (some "key-row".toList))] none)] none

theorem ofTokens_pairedDocument :
    Draft.ofTokens (Json.tokens (pairedDocument file entries)) =
      (.array [pairedDraft file entries] none, []) := by
  have hrange : (pairedValue file entries).InRange :=
    ⟨⟨trivial, Json.membersInRange_textMembers entries, ⟨trivial, trivial⟩, trivial⟩, trivial⟩
  have hprinted : (pairedValue file entries).printed = pairedValue file entries := by
    simp only [pairedValue, Json.printed, Json.printedItems, Json.printedMembers,
      Json.printedMembers_textMembers]
  rw [pairedDocument, Json.ofTokens_documentSpelledBy (Json.documentSpelledBy_render hrange),
    hprinted]
  rfl

theorem decodeConfiguration_pairedDraft :
    decodeConfiguration (pairedDraft file entries) = .ok (pairedConfiguration file entries) := by
  have hmap : decodeMap (.object (memberDrafts (textMembers entries)) none) =
      .ok (.ofList entries) := decodeMap_eq_ok_iff.mpr ⟨entries, rfl, rfl⟩
  have hfile : FileFields.decode {} fileKey (.string (some file)) = .ok { file := some file } := rfl
  have hmetrics : FileFields.decode { file := some file } metricsKey
      (.object (memberDrafts (textMembers entries)) none) =
        .ok { file := some file, metrics := some (.ofList entries) } := by
    rw [FileFields.decode, if_neg (by decide), if_pos rfl, once_eq_ok_iff.mpr ⟨rfl, hmap⟩]
    rfl
  simp only [pairedDraft, decodeConfiguration, FileFields.ofMembers, decodeKey, hfile, hmetrics]
  rfl

theorem haveMetrics_pairedDocument :
    RawConfiguration.HaveMetrics (pairedDocument file entries) [entries] :=
  ⟨_, ofTokens_pairedDocument file entries, .cons (.given (by simp)) .nil⟩

theorem load_pairedDocument :
    load (pairedDocument file entries) = ofRawAll [pairedConfiguration file entries] := by
  rw [load, RawConfiguration.decodeAll_eq_ok_iff.mpr ⟨_, ofTokens_pairedDocument file entries,
    .cons (decodeConfiguration_pairedDraft file entries) .nil⟩]

end Paired

-- ════════════════════════════════════════════════════════════════════════
-- Documents
-- ════════════════════════════════════════════════════════════════════════

/-- What a document that loads was made of: its metrics, and the configurations decoded from it. -/
theorem exists_of_load {document : Text} {configs : List Configuration}
    (h : load document = .ok configs) :
    ∃ raws lists, RawConfiguration.HaveMetrics document lists ∧
      (∀ lists', RawConfiguration.HaveMetrics document lists' → lists' = lists) ∧
      List.Forall₂ MetricsFrom raws lists ∧
      List.Forall₂ (fun raw config => ofRaw raw = .ok config) raws configs := by
  unfold load at h
  split at h
  · cases h
  · next raws hraws =>
    obtain ⟨lists, hlists, hfrom, hunique⟩ := RawConfiguration.exists_haveMetrics hraws
    exact ⟨raws, lists, hlists, hunique, hfrom, forall₂_ofRaw h⟩

end Configuration

end Telemetry
