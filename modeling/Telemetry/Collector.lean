import Telemetry.Collection

/-!
# Collectors

A collector answers two questions about a configuration document: which namespaces it can produce,
and which metrics it produces now. Documents are loaded once and kept until they are given up.

## Main definitions

- `LoadedSet` — the configurations of a document, with the number of their loading
- `Collector` — the loaded sets by the paths of their documents
- `Collector.configs`, `Collector.reload` — the set of a path, and giving it up
- `Collector.discover`, `Collector.collect` — the two questions

## Design notes

Two spellings of a path share one set. A document that cannot be loaded leaves no trace, and a
configuration that fails is reported and does not disturb the others.
-/

namespace Telemetry

/-- The configurations of a document. Sets from different loadings have different numbers. -/
structure LoadedSet where
  serial : Nat
  configs : List Configuration

/-- The loaded sets by the paths of their documents, and the number of sets loaded so far. -/
structure Collector where
  cache : SortedMap (List Component) LoadedSet
  loads : Nat

/-- A configuration that failed, with its files and its error. -/
structure FailedConfiguration where
  file : Text
  error : CollectError

/-- What a document produces: the metrics of the configurations that succeeded, and those that
    failed. -/
structure Harvest where
  metrics : List Metric
  failures : List FailedConfiguration
  /-- The clock afterwards. -/
  clock : Clock

/-- The name of the default variable with the number of processors. -/
def processorCount : Text := "NUM_CPU".toList

/-- The default variables: those of the environment as texts, and the number of processors. -/
def defaultVariables (environment : List (Text × Text)) (processors : Nat) : Record :=
  (SortedMap.ofList (environment.map fun (k, v) => (k, Value.text v))).insert processorCount
    (.number (Float.ofNat processors))

/-- The configurations of the document at a path. -/
def Source.loadConfigs (source : Source) (path : Path) : Except CollectError (List Configuration) :=
  match source.read path with
  | .error e => .error (.read path e)
  | .ok document =>
    match Configuration.load document with
    | .error e => .error (.config e)
    | .ok configs => .ok configs

/-- The results of several configurations: the metrics of those that succeed and the errors of those
    that fail, both in order. -/
def Harvest.gather (source : Source) (defaults : Record) :
    List Configuration → Clock → Harvest
  | [], clock => ⟨[], [], clock⟩
  | c :: cs, clock =>
    match c.collecting source defaults clock with
    | (.ok metrics, clock) =>
      let rest := gather source defaults cs clock
      { rest with metrics := metrics ++ rest.metrics }
    | (.error e, clock) =>
      let rest := gather source defaults cs clock
      { rest with failures := ⟨c.file, e⟩ :: rest.failures }

namespace Collector

/-- The collector that has loaded nothing. -/
def empty : Collector := ⟨.empty, 0⟩

/-- The set kept for a path. -/
def kept? (c : Collector) (path : Path) : Option LoadedSet :=
  c.cache.get? path.components

/-- Keeps configurations for a path, unless a set is kept for it already; gives the set that is kept
    then. -/
def keep (c : Collector) (path : Path) (configs : List Configuration) : LoadedSet × Collector :=
  match c.kept? path with
  | some loaded => (loaded, c)
  | none =>
    let loaded : LoadedSet := ⟨c.loads, configs⟩
    (loaded, ⟨c.cache.insert path.components loaded, c.loads + 1⟩)

/-- The set of a path, which is loaded if none is kept, and the collector afterwards. -/
def configs (c : Collector) (source : Source) (path : Path) :
    Except CollectError LoadedSet × Collector :=
  match c.kept? path with
  | some loaded => (.ok loaded, c)
  | none =>
    match source.loadConfigs path with
    | .error e => (.error e, c)
    | .ok configs =>
      let (loaded, c) := c.keep path configs
      (.ok loaded, c)

/-- The collector that has given up the set of a path. -/
def reload (c : Collector) (path : Path) : Collector :=
  { c with cache := c.cache.erase path.components }

/-- The namespace patterns that the document at a path can produce. -/
def discover (c : Collector) (source : Source) (path : Path) :
    Except CollectError (List Namespace) × Collector :=
  let (loaded, c) := c.configs source path
  (loaded.map fun s => s.configs.flatMap Configuration.namespaces, c)

/-- What the document at a path produces now. -/
def collect (c : Collector) (source : Source) (defaults : Record) (clock : Clock) (path : Path) :
    Except CollectError Harvest × Collector :=
  let (loaded, c) := c.configs source path
  (loaded.map fun s => Harvest.gather source defaults s.configs clock, c)

end Collector

end Telemetry
