import Telemetry.Proofs.Collection.Traversal
import Telemetry.Proofs.Collector.Cache

/-!
# Error scopes

The configurations of a document are collected one after the other, and each of them succeeds or
fails on its own: what a document produces are the metrics of the configurations that succeed, and
one report for each of the others.

## Main definitions

- `turns` — the configurations with the clock as it stands when their turn comes

## Main statements

- `Harvest.metrics_gather`, `Harvest.failures_gather` — the result, turn by turn
- `Harvest.content_gather` — what the metrics say does not depend on the turns before
- `Collector.collect_scopes` — the result of a collector, and why a failure disturbs nothing
-/

namespace Telemetry

/-- The configurations with the clock as it stands when their turn comes. -/
def turns (source : Source) (defaults : Record) :
    List Configuration → Clock → List (Configuration × Clock)
  | [], _ => []
  | c :: cs, clock => (c, clock) :: turns source defaults cs (c.collecting source defaults clock).2

namespace Configuration

variable (c : Configuration) (source : Source) (defaults : Record)

/-- What the metrics of a configuration say, and its failure, do not depend on the clock. -/
theorem collect_content (clock clock' : Clock) :
    (c.collect source defaults clock).map (·.map Metric.content) =
      (c.collect source defaults clock').map (·.map Metric.content) := by
  cases h : (c.steps source).findSome? (CollectStep.failure? c source defaults) with
  | some e =>
    rw [c.collect_of_failure source defaults clock h, c.collect_of_failure source defaults clock' h]
  | none =>
    obtain ⟨ms, hms, hmade, _⟩ := c.collect_of_success source defaults clock h
    obtain ⟨ms', hms', hmade', _⟩ := c.collect_of_success source defaults clock' h
    rw [hms, hms', Except.map, Except.map, Metric.content_eq_of_madeFor hmade hmade']

/-- A collection leaves the clock behind after some readings. -/
theorem collecting_clock (clock : Clock) :
    ∃ n, (c.collecting source defaults clock).2 = clock.after n := by
  have h := c.follows_collecting source defaults clock
  split at h
  case h_1 =>
    obtain ⟨n, hn⟩ := h
    exact ⟨n, by rw [hn]⟩
  case h_2 =>
    obtain ⟨ms, hms, _⟩ := h
    exact ⟨ms.length, by rw [hms]⟩

/-- A clock that stands still does so after a collection. -/
theorem collecting_fixed (t : Timestamp) :
    (c.collecting source defaults (.fixed t)).2 = .fixed t := by
  obtain ⟨n, hn⟩ := c.collecting_clock source defaults (.fixed t)
  rw [hn, Clock.after_fixed]

end Configuration

theorem attained_map {ε α β : Type} (r : Except ε (List α)) (f : α → β) :
    (attained r).map f = attained (r.map (·.map f)) := by
  cases r <;> rfl

namespace Harvest

variable (source : Source) (defaults : Record)

theorem metrics_gather (cs : List Configuration) (clock : Clock) :
    (gather source defaults cs clock).metrics =
      (turns source defaults cs clock).flatMap fun t =>
        attained (t.1.collect source defaults t.2) := by
  induction cs generalizing clock with
  | nil => rfl
  | cons c cs ih =>
    rw [gather, turns, List.flatMap_cons, ← ih, Configuration.collect]
    split <;> rename_i h <;> rw [h] <;> rfl

theorem failures_gather (cs : List Configuration) (clock : Clock) :
    (gather source defaults cs clock).failures =
      (turns source defaults cs clock).filterMap fun t =>
        errorOf? (FailedConfiguration.mk t.1.file) (t.1.collect source defaults t.2) := by
  induction cs generalizing clock with
  | nil => rfl
  | cons c cs ih =>
    rw [gather, turns, List.filterMap_cons, ← ih, Configuration.collect]
    split <;> rename_i h <;> rw [h] <;> rfl

/-- What the metrics say depends on each configuration alone, whatever the clock shows. -/
theorem content_gather (cs : List Configuration) (clock clock' : Clock) :
    (gather source defaults cs clock).metrics.map Metric.content =
      cs.flatMap fun c => (attained (c.collect source defaults clock')).map Metric.content := by
  rw [metrics_gather]
  induction cs generalizing clock with
  | nil => rfl
  | cons c cs ih =>
    rw [turns, List.flatMap_cons, List.map_append, ih, List.flatMap_cons, attained_map,
      attained_map, c.collect_content source defaults clock clock']

/-- With a clock that stands still the metrics depend on each configuration alone. -/
theorem metrics_gather_fixed (cs : List Configuration) (t : Timestamp) :
    (gather source defaults cs (.fixed t)).metrics =
      cs.flatMap fun c => attained (c.collect source defaults (.fixed t)) := by
  rw [metrics_gather]
  induction cs with
  | nil => rfl
  | cons c cs ih => rw [turns, c.collecting_fixed, List.flatMap_cons, List.flatMap_cons, ih]

end Harvest

theorem turns_fst (source : Source) (defaults : Record) (cs : List Configuration) (clock : Clock) :
    (turns source defaults cs clock).map Prod.fst = cs := by
  induction cs generalizing clock with
  | nil => rfl
  | cons c cs ih => rw [turns, List.map_cons, ih]

namespace Collector

theorem collect_of_inEffect {k : Collector} {source : Source} {path : Path}
    {cs : List Configuration} (h : k.inEffect source path = .ok cs) (defaults : Record)
    (clock : Clock) :
    (k.collect source defaults clock path).1 = .ok (Harvest.gather source defaults cs clock) := by
  rw [collect_fst, h, Except.map]

/-- A collector answers with an error exactly if it has to load the document and cannot. Otherwise
    it answers with the metrics of the configurations that succeed in their turn and one failure for
    each of the others, both in order. A configuration that fails takes nothing from the metrics of
    the others, and does not add to them; it can only delay them. -/
theorem collect_scopes (k : Collector) (source : Source) (defaults : Record) (clock : Clock)
    (path : Path) :
    (∀ e, (k.collect source defaults clock path).1 = .error e ↔
      k.kept? path = none ∧
        ((∃ r, source.read path = .error r ∧ e = .read path r) ∨
          ∃ document d, source.read path = .ok document ∧
            Configuration.load document = .error d ∧ e = .config d)) ∧
    (∀ cs, k.inEffect source path = .ok cs →
      (turns source defaults cs clock).map Prod.fst = cs ∧
      ∃ h, (k.collect source defaults clock path).1 = .ok h ∧
        h.metrics = (turns source defaults cs clock).flatMap (fun t =>
          attained (t.1.collect source defaults t.2)) ∧
        h.failures = (turns source defaults cs clock).filterMap fun t =>
          errorOf? (FailedConfiguration.mk t.1.file) (t.1.collect source defaults t.2)) ∧
    ∀ (k' : Collector) (path' : Path) (before after : List Configuration) (c : Configuration)
      (e : CollectError), k.inEffect source path = .ok (before ++ c :: after) →
      k'.inEffect source path' = .ok (before ++ after) →
      c.collect source defaults clock = .error e →
        (k.collect source defaults clock path).1.map (·.metrics.map Metric.content) =
          (k'.collect source defaults clock path').1.map (·.metrics.map Metric.content) ∧
        ∀ t : Timestamp, (k.collect source defaults t path).1.map Harvest.metrics =
          (k'.collect source defaults t path').1.map Harvest.metrics := by
  refine ⟨fun e => ?_, fun cs hcs => ⟨turns_fst source defaults cs clock, ?_⟩, ?_⟩
  · rw [collect_eq_error_iff, Source.loadConfigs_eq_error_iff]
  · refine ⟨_, collect_of_inEffect hcs defaults clock, ?_, ?_⟩
    · exact Harvest.metrics_gather source defaults cs clock
    · exact Harvest.failures_gather source defaults cs clock
  · intro k' path' before after c e hk hk' hc
    constructor
    · rw [collect_of_inEffect hk, collect_of_inEffect hk', Except.map, Except.map,
        Harvest.content_gather _ _ _ clock clock, Harvest.content_gather _ _ _ clock clock]
      simp [hc, attained]
    · intro t
      obtain ⟨e', hc'⟩ : ∃ e', c.collect source defaults t = .error e' := by
        have hcontent := c.collect_content source defaults t clock
        rw [hc] at hcontent
        cases ht : c.collect source defaults t with
        | error e' => exact ⟨e', rfl⟩
        | ok ms => rw [ht] at hcontent; cases hcontent
      rw [collect_of_inEffect hk, collect_of_inEffect hk', Except.map, Except.map,
        Harvest.metrics_gather_fixed, Harvest.metrics_gather_fixed]
      simp [hc', attained]

/-- Between two configurations that succeed, one with a pattern that is none leaves no trace. -/
theorem collect_scopes_bad_pattern :
    let measure : Measure := ⟨⟨[.static ['a']]⟩, ⟨['x'], [.literal (.text ['x'])]⟩⟩
    let bad : Configuration := ⟨['['], [measure], .empty, .keyRow⟩
    let good : Configuration := ⟨['f'], [measure], .empty, .table [['k']] 0⟩
    let source : Source :=
      ⟨fun p => if p = ['['] then .error ⟨0, .invalidRange⟩ else .ok [p], fun _ => .ok ['1']⟩
    let k := ((empty.keep ['p'] [good, bad, good]).2.keep ['q'] [good, good]).2
    (k.collect source .empty (.fixed ⟨0, 0⟩) ['p']).1.map Harvest.metrics =
        (k.collect source .empty (.fixed ⟨0, 0⟩) ['q']).1.map Harvest.metrics ∧
      (k.collect source .empty (.fixed ⟨0, 0⟩) ['p']).1.map (·.metrics.length) = .ok 2 := by
  intro measure bad good source k
  refine ⟨?_, rfl⟩
  have h := (k.collect_scopes source .empty (.fixed ⟨0, 0⟩) ['p']).2.2 k ['q'] [good] [good] bad
    (.glob ⟨0, .invalidRange⟩) rfl rfl rfl
  exact h.2 ⟨0, 0⟩

end Collector

end Telemetry
