import Telemetry.Collector

/-!
# The cache of a collector

What each operation of a collector does to the sets that are kept, and what it works with.

## Main definitions

- `Collector.inEffect` — the configurations that a collector works with for a path

## Main statements

- `Collector.kept?_reload`, `Collector.kept?_keep` — which sets are kept afterwards
- `Collector.configs_cases` — the ways in which a request for a set can go
- `Collector.kept?_configs` — which sets are kept after a request
- `Collector.discover_fst`, `Collector.collect_fst` — the answers, from what is in effect
-/

namespace Telemetry

namespace Collector

/-- The configurations that a collector works with for a path: those that are kept, or else those of
    the document. -/
def inEffect (c : Collector) (source : Source) (path : Path) :
    Except CollectError (List Configuration) :=
  match c.kept? path with
  | some loaded => .ok loaded.configs
  | none => source.loadConfigs path

variable {c : Collector} {source : Source} {path : Path}

/-- Spellings of one path share a set. -/
theorem kept?_congr (c : Collector) {q : Path} (h : path.components = q.components) :
    c.kept? path = c.kept? q := by
  rw [kept?, kept?, h]

/-- Giving up the set of a path forgets it for all spellings and forgets no other. -/
theorem kept?_reload (c : Collector) (path q : Path) :
    (c.reload path).kept? q = if q.components = path.components then none else c.kept? q :=
  SortedMap.get?_erase _ _ _

@[simp] theorem loads_reload (c : Collector) (path : Path) : (c.reload path).loads = c.loads := rfl

theorem keep_of_some {loaded : LoadedSet} (h : c.kept? path = some loaded)
    (configs : List Configuration) : c.keep path configs = (loaded, c) := by
  simp [keep, h]

theorem keep_of_none (h : c.kept? path = none) (configs : List Configuration) :
    c.keep path configs =
      (⟨c.loads, configs⟩,
        ⟨c.cache.insert path.components ⟨c.loads, configs⟩, c.loads + 1⟩) := by
  simp [keep, h]

/-- A set is kept for all spellings of its path, and the sets of other paths stay. -/
theorem kept?_keep (c : Collector) (path : Path) (configs : List Configuration) (q : Path) :
    (c.keep path configs).2.kept? q =
      if q.components = path.components then some (c.keep path configs).1 else c.kept? q := by
  cases h : c.kept? path with
  | some loaded =>
    rw [keep_of_some h]
    split
    case isTrue hq => rw [← h, c.kept?_congr hq]
    case isFalse => rfl
  | none =>
    rw [keep_of_none h]
    exact SortedMap.get?_insert _ _ _ _

/-- A request for a set is answered from the cache, fails without a trace, or keeps what it
    loads. -/
theorem configs_cases (c : Collector) (source : Source) (path : Path) :
    (∃ loaded, c.kept? path = some loaded ∧ c.configs source path = (.ok loaded, c)) ∨
    (∃ e, c.kept? path = none ∧ source.loadConfigs path = .error e ∧
      c.configs source path = (.error e, c)) ∨
    ∃ configs, c.kept? path = none ∧ source.loadConfigs path = .ok configs ∧
      c.configs source path = (.ok ⟨c.loads, configs⟩, (c.keep path configs).2) := by
  cases h : c.kept? path with
  | some loaded => exact .inl ⟨loaded, rfl, by simp [configs, h]⟩
  | none =>
    cases hload : source.loadConfigs path with
    | error e => exact .inr (.inl ⟨e, rfl, rfl, by simp [configs, h, hload]⟩)
    | ok cs =>
      refine .inr (.inr ⟨cs, rfl, rfl, ?_⟩)
      simp [configs, h, hload, keep_of_none h]

theorem configs_of_some {loaded : LoadedSet} (h : c.kept? path = some loaded) :
    c.configs source path = (.ok loaded, c) := by
  simp [configs, h]

theorem loads_configs (c : Collector) (source : Source) (path : Path) :
    c.loads ≤ (c.configs source path).2.loads := by
  rcases c.configs_cases source path with ⟨loaded, -, hc⟩ | ⟨e, -, -, hc⟩ | ⟨cs, h, -, hc⟩
  · exact Nat.le_of_eq (congrArg (fun r => r.2.loads) hc).symm
  · exact Nat.le_of_eq (congrArg (fun r => r.2.loads) hc).symm
  · rw [hc, keep_of_none h]
    exact Nat.le_succ _

/-- A set that is asked for is kept from then on, and the sets of other paths stay. -/
theorem kept?_configs (c : Collector) (source : Source) (path q : Path) :
    (c.configs source path).2.kept? q =
      if q.components = path.components then (c.configs source path).1.toOption
      else c.kept? q := by
  rcases c.configs_cases source path with ⟨loaded, h, hc⟩ | ⟨e, h, -, hc⟩ | ⟨cs, h, -, hc⟩
  · rw [hc]
    split
    case isTrue hq => rw [c.kept?_congr hq, h, Except.toOption]
    case isFalse => rfl
  · rw [hc]
    split
    case isTrue hq => rw [c.kept?_congr hq, h, Except.toOption]
    case isFalse => rfl
  · rw [hc, kept?_keep, keep_of_none h, Except.toOption]

/-- A request for a set is answered with what is in effect. -/
theorem configs_fst (c : Collector) (source : Source) (path : Path) :
    (c.configs source path).1.map LoadedSet.configs = c.inEffect source path := by
  rcases c.configs_cases source path with ⟨loaded, h, hc⟩ | ⟨e, h, hload, hc⟩ | ⟨cs, h, hload, hc⟩
  · simp [hc, inEffect, h, Except.map]
  · simp [hc, inEffect, h, hload, Except.map]
  · simp [hc, inEffect, h, hload, Except.map]

theorem discover_fst (c : Collector) (source : Source) (path : Path) :
    (c.discover source path).1 =
      (c.inEffect source path).map (·.flatMap Configuration.namespaces) := by
  rw [← configs_fst, discover]
  rcases c.configs source path with ⟨_ | _, _⟩ <;> rfl

theorem collect_fst (c : Collector) (source : Source) (defaults : Record) (clock : Clock)
    (path : Path) :
    (c.collect source defaults clock path).1 =
      (c.inEffect source path).map (Harvest.gather source defaults · clock) := by
  rw [← configs_fst, collect]
  rcases c.configs source path with ⟨_ | _, _⟩ <;> rfl

theorem inEffect_eq_error_iff (c : Collector) (source : Source) (path : Path) (e : CollectError) :
    c.inEffect source path = .error e ↔
      c.kept? path = none ∧ source.loadConfigs path = .error e := by
  rw [inEffect]
  cases h : c.kept? path <;> simp

theorem collect_eq_error_iff (c : Collector) (source : Source) (defaults : Record) (clock : Clock)
    (path : Path) (e : CollectError) :
    (c.collect source defaults clock path).1 = .error e ↔
      c.kept? path = none ∧ source.loadConfigs path = .error e := by
  rw [collect_fst, ← inEffect_eq_error_iff]
  cases c.inEffect source path <;> simp [Except.map]

end Collector

/-- Loading a document needs no other file. -/
theorem Source.loadConfigs_congr {source source' : Source} {path : Path}
    (h : source.read path = source'.read path) :
    source.loadConfigs path = source'.loadConfigs path := by
  rw [loadConfigs, loadConfigs, h]

theorem Source.loadConfigs_eq_ok_iff (source : Source) (path : Path) (cs : List Configuration) :
    source.loadConfigs path = .ok cs ↔
      ∃ contents, source.read path = .ok contents ∧ Configuration.load contents = .ok cs := by
  rw [loadConfigs]
  cases hread : source.read path with
  | error r => simp
  | ok contents => cases hload : Configuration.load contents <;> simp [hload]

/-- A document cannot be loaded if it cannot be read or not be decoded. -/
theorem Source.loadConfigs_eq_error_iff (source : Source) (path : Path) (e : CollectError) :
    source.loadConfigs path = .error e ↔
      (∃ r, source.read path = .error r ∧ e = .read path r) ∨
        ∃ document d, source.read path = .ok document ∧
          Configuration.load document = .error d ∧ e = .config d := by
  rw [loadConfigs]
  cases hread : source.read path with
  | error r => simp [eq_comm]
  | ok document => cases hload : Configuration.load document <;> simp [hload, eq_comm]

end Telemetry
