import Telemetry.Proofs.Collection.Scopes
import Telemetry.Proofs.Namespace.Instance
import Telemetry.Proofs.Basic

/-!
# Announced namespaces

What a collector announces for a document is the list of the namespace patterns in it, and what it
collects from the same set are instances of them: every record of a configuration that succeeds
gives one metric for each pattern of the configuration, in the order of the announcement.

## Main definitions

- `Configuration.recordsFound` — the records of a collection, each with its file
- `Configuration.Yields` — the metrics of a record are instances of the announced patterns

## Main statements

- `Configuration.exists_yields` — the metrics of a collection, record by record
- `Collector.collect_announced` — whatever is collected has been announced
-/

namespace Telemetry

namespace Configuration

/-- The records that a collection goes through, each with the path of its file, in order. -/
def recordsFound (c : Configuration) (source : Source) : List (Path × Record) :=
  (c.files source).flatMap fun path => (c.recordsAt source path).map fun record => (path, record)

/-- Metrics are instances of the patterns of a configuration, for a record in its file: one for each
    pattern, in order. -/
def Yields (c : Configuration) (defaults : Record) (found : Path × Record) (ms : List Metric) :
    Prop :=
  List.Forall₂ (fun ns m => m.name.IsInstance ns found.1 (found.2.fieldOrDefault defaults))
    c.namespaces ms

/-- The occasions of a collection are the measures of the records that it goes through. -/
theorem occasions_eq_flatMap (c : Configuration) (source : Source) :
    c.occasions source = (c.recordsFound source).flatMap fun found =>
      c.measures.map fun m => ⟨found.1, found.2, m⟩ := by
  have hfile : ∀ path, c.occasionsAt source path =
      ((c.recordsAt source path).map fun record => (path, record)).flatMap fun found =>
        c.measures.map fun m => ⟨found.1, found.2, m⟩ := by
    intro path
    rw [occasionsAt, List.flatMap_map]
  rw [occasions, recordsFound, List.flatMap_assoc]
  exact congrArg (List.flatMap · (c.files source)) (funext hfile)

variable {c : Configuration} {source : Source} {defaults : Record} {clock : Clock}

/-- The metrics of a collection that succeeds are one block for each record that it goes through,
    and each block is what the record yields. -/
theorem exists_yields {ms : List Metric} (h : c.collect source defaults clock = .ok ms) :
    ∃ blocks, ms = List.flatten blocks ∧
      List.Forall₂ (c.Yields defaults) (c.recordsFound source) blocks := by
  have hmade := c.madeFor_of_collect source defaults clock h
  rw [occasions_eq_flatMap] at hmade
  obtain ⟨blocks, hflatten, hblocks⟩ := exists_blocks_of_forall₂ hmade
  refine ⟨blocks, hflatten, hblocks.imp fun found block hblock => ?_⟩
  rw [Yields, namespaces, List.forall₂_map_left_iff]
  rw [List.forall₂_map_left_iff] at hblock
  exact hblock.imp fun m metric hmetric => Namespace.isInstance_of_bind hmetric.name

/-- Every metric of a collection is an instance of a pattern of the configuration, for one of the
    records. -/
theorem exists_isInstance {ms : List Metric} (h : c.collect source defaults clock = .ok ms)
    {m : Metric} (hm : m ∈ ms) :
    ∃ ns ∈ c.namespaces, ∃ found ∈ c.recordsFound source,
      m.name.IsInstance ns found.1 (found.2.fieldOrDefault defaults) := by
  obtain ⟨blocks, rfl, hblocks⟩ := exists_yields h
  obtain ⟨block, hblock, hm⟩ := List.mem_flatten.mp hm
  obtain ⟨found, hfound, hyields⟩ := exists_mem_of_forall₂ hblocks hblock
  obtain ⟨ns, hns, hinstance⟩ := exists_mem_of_forall₂ hyields hm
  exact ⟨ns, hns, found, hfound, hinstance⟩

end Configuration

-- ════════════════════════════════════════════════════════════════════════
-- Announcement and collection
-- ════════════════════════════════════════════════════════════════════════

theorem mem_fst_of_mem_turns {source : Source} {defaults : Record} {cs : List Configuration}
    {clock : Clock} {t : Configuration × Clock} (h : t ∈ turns source defaults cs clock) :
    t.1 ∈ cs := by
  have hfst := List.mem_map_of_mem (f := Prod.fst) h
  rwa [turns_fst] at hfst

namespace Collector

/-- If an announcement and a collection are made on one loaded set, in whatever states of the
    collector and of the files, the announcement lists the patterns of the set, and each metric is
    an instance of an announced pattern for a record that was found. In its turn, each configuration
    that does not fail contributes a block of metrics for each of its records, in order, and the
    block has one metric for each announced pattern of the configuration, in the announced order. -/
theorem collect_announced {k k' : Collector} {source source' : Source} {path path' : Path}
    {loaded : LoadedSet} (hdiscover : (k.configs source path).1 = .ok loaded)
    (hcollect : (k'.configs source' path').1 = .ok loaded) (defaults : Record) (clock : Clock) :
    ∃ announced h, (k.discover source path).1 = .ok announced ∧
      (k'.collect source' defaults clock path').1 = .ok h ∧
      announced = loaded.configs.flatMap Configuration.namespaces ∧
      (∀ m ∈ h.metrics, ∃ ns ∈ announced, ∃ c ∈ loaded.configs,
        ∃ found ∈ c.recordsFound source',
          m.name.IsInstance ns found.1 (found.2.fieldOrDefault defaults)) ∧
      (turns source' defaults loaded.configs clock).map Prod.fst = loaded.configs ∧
      h.metrics = (turns source' defaults loaded.configs clock).flatMap (fun t =>
        attained (t.1.collect source' defaults t.2)) ∧
      ∀ t ∈ turns source' defaults loaded.configs clock, ∀ ms,
        t.1.collect source' defaults t.2 = .ok ms →
        ∃ blocks, ms = List.flatten blocks ∧
          List.Forall₂ (t.1.Yields defaults) (t.1.recordsFound source') blocks := by
  have hannounced : (k.discover source path).1 =
      .ok (loaded.configs.flatMap Configuration.namespaces) := by
    rw [discover_fst, ← configs_fst, hdiscover, Except.map, Except.map]
  have hharvest : (k'.collect source' defaults clock path').1 =
      .ok (Harvest.gather source' defaults loaded.configs clock) := by
    rw [collect_fst, ← configs_fst, hcollect, Except.map, Except.map]
  have hmetrics := Harvest.metrics_gather source' defaults loaded.configs clock
  have hturns := turns_fst source' defaults loaded.configs clock
  refine ⟨_, _, hannounced, hharvest, rfl, ?_, hturns, hmetrics, ?_⟩
  · intro m hm
    rw [hmetrics] at hm
    obtain ⟨t, ht, hm⟩ := List.mem_flatMap.mp hm
    have hc := mem_fst_of_mem_turns ht
    cases hresult : t.1.collect source' defaults t.2 with
    | error e =>
      rw [hresult] at hm
      cases hm
    | ok ms =>
      rw [hresult] at hm
      obtain ⟨ns, hns, found, hfound, hinstance⟩ := Configuration.exists_isInstance hresult hm
      have hns' : ns ∈ loaded.configs.flatMap Configuration.namespaces :=
        List.mem_flatMap.mpr ⟨t.1, hc, hns⟩
      exact ⟨ns, hns', t.1, hc, found, hfound, hinstance⟩
  · intro t _ ms hms
    exact Configuration.exists_yields hms

/-- A pattern with a component of the path and a variable, announced under one spelling of the path
    of the document and collected under another. -/
theorem collect_announced_two_placeholders :
    let target : Namespace := ⟨[.static ['n'], .placeholder ⟨['i'], "i:path:-2".toList, .path (-2)⟩,
      .placeholder ⟨['k'], ['k'], .variable⟩, .static ['b']]⟩
    let config : Configuration :=
      ⟨['*'], [⟨target, ⟨['x'], [.literal (.text ['x'])]⟩⟩], .empty, .table [['k']] 0⟩
    let source : Source := ⟨fun _ => .ok [['d', '/', 'f']], fun _ => .ok ['v', '\n', 'w']⟩
    let k := (empty.keep ['p'] [config]).2
    let k' := (k.discover source ['p']).2
    (k.discover source ['p']).1 = .ok [target] ∧
      ∃ h, (k'.collect source .empty (.fixed ⟨0, 0⟩) ['p', '/']).1 = .ok h ∧
        h.metrics.map (·.name.display) = ["/n/d/v/b".toList, "/n/d/w/b".toList] ∧
        ∀ m ∈ h.metrics, ∃ found ∈ config.recordsFound source,
          m.name.IsInstance target found.1 (found.2.fieldOrDefault .empty) := by
  intro target config source k k'
  have hdiscover : (k.configs source ['p']).1 = .ok ⟨0, [config]⟩ := rfl
  have hcollect : (k'.configs source ['p', '/']).1 = .ok ⟨0, [config]⟩ := rfl
  obtain ⟨announced, h, hannounced, hharvest, -, hmetrics, -⟩ :=
    collect_announced hdiscover hcollect .empty (.fixed ⟨0, 0⟩)
  have htarget : (k.discover source ['p']).1 = .ok [target] := rfl
  obtain rfl : announced = [target] := Except.ok.inj (hannounced.symm.trans htarget)
  refine ⟨htarget, h, hharvest, ?_, fun m hm => ?_⟩
  · have hnames : (k'.collect source .empty (.fixed ⟨0, 0⟩) ['p', '/']).1.map
        (·.metrics.map (·.name.display)) = .ok ["/n/d/v/b".toList, "/n/d/w/b".toList] := rfl
    rw [hharvest] at hnames
    exact Except.ok.inj hnames
  · obtain ⟨ns, hns, c, hc, found, hfound, hinstance⟩ := hmetrics m hm
    obtain rfl := List.mem_singleton.mp hns
    obtain rfl := List.mem_singleton.mp hc
    exact ⟨found, hfound, hinstance⟩

end Collector

end Telemetry
