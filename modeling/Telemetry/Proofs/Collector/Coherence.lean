import Telemetry.Proofs.Collector.Cache
import Telemetry.Proofs.Collector.Session

/-!
# Coherence of the cache

In every session the collector keeps, for each path, the configurations of the contents that the
history puts in force for it. So its answers are those of a collector that keeps nothing and is told
the history.

## Main definitions

- `Coherent` — what is kept is what a history puts in force

## Main statements

- `firstLoad?_concat` — what one more moment does to what a history puts in force
- `Coherent.step` — an operation keeps a session coherent
- `Session.run_eq_uncached` — the answers of a session are those of the collector without a cache
-/

namespace Telemetry

/-- The collector keeps, for each path, what a history puts in force for it. -/
def Coherent (history : List Moment) (c : Collector) : Prop :=
  ∀ path,
    match firstLoad? history path with
    | none => c.kept? path = none
    | some contents =>
      ∃ loaded, c.kept? path = some loaded ∧ Configuration.load contents = .ok loaded.configs

-- ════════════════════════════════════════════════════════════════════════
-- Histories
-- ════════════════════════════════════════════════════════════════════════

theorem firstLoad?_concat (history : List Moment) (m : Moment) (path : Path) :
    firstLoad? (history ++ [m]) path =
      if m.operation.reloads path then none
      else (firstLoad? history path).or (m.load? path) := by
  rw [firstLoad?, sinceReload, List.rtakeWhile_concat]
  cases m.operation.reloads path with
  | true => rfl
  | false =>
    simp only [Bool.not_false, if_true, Bool.false_eq_true, if_false, List.findSome?_append,
      List.findSome?_singleton]
    rfl

/-- The contents of a document that can be loaded are those that are read. -/
theorem World.loadable?_eq_some_iff (w : World) (path : Path) (contents : Text) :
    w.loadable? path = some contents ↔
      w.source.read path = .ok contents ∧ ∃ cs, Configuration.load contents = .ok cs := by
  constructor
  · intro h
    unfold loadable? at h
    split at h
    · cases h
    · next document hread =>
      split at h
      · cases h
      · next cs hload =>
        obtain rfl := Option.some.inj h
        exact ⟨hread, cs, hload⟩
  · rintro ⟨hread, cs, hload⟩
    simp only [loadable?, hread, hload]

theorem World.loadable?_eq_none_of_error {w : World} {path : Path} {e : CollectError}
    (h : w.source.loadConfigs path = .error e) : w.loadable? path = none := by
  cases hloadable : w.loadable? path with
  | none => rfl
  | some contents =>
    obtain ⟨hread, cs, hcs⟩ := (w.loadable?_eq_some_iff path contents).1 hloadable
    cases h.symm.trans ((w.source.loadConfigs_eq_ok_iff path cs).2 ⟨contents, hread, hcs⟩)

theorem World.loadable?_of_ok {w : World} {path : Path} {cs : List Configuration}
    (h : w.source.loadConfigs path = .ok cs) :
    ∃ contents, w.loadable? path = some contents ∧ Configuration.load contents = .ok cs := by
  obtain ⟨contents, hread, hcs⟩ := (w.source.loadConfigs_eq_ok_iff path cs).1 h
  exact ⟨contents, (w.loadable?_eq_some_iff path contents).2 ⟨hread, cs, hcs⟩, hcs⟩

/-- An operation that needs a document gives none up. -/
theorem Operation.reloads_of_document? {op : Operation} {q : Path} (h : op.document? = some q)
    (path : Path) : op.reloads path = false := by
  cases op with
  | reload q => cases h
  | _ => rfl

/-- An operation gives up a set, asks for one, or leaves the collector alone. -/
theorem Session.step_collector (s : Session) (op : Operation) :
    (∃ q, op = .reload q ∧ (s.step op).2.collector = s.collector.reload q) ∨
    (∃ q, op.document? = some q ∧
      (s.step op).2.collector = (s.collector.configs s.world.source q).2) ∨
    (op.document? = none ∧ (∀ path, op.reloads path = false) ∧
      (s.step op).2.collector = s.collector) := by
  cases op with
  | write path contents => exact .inr (.inr ⟨rfl, fun _ => rfl, rfl⟩)
  | setEnvironment environment processors => exact .inr (.inr ⟨rfl, fun _ => rfl, rfl⟩)
  | setClock clock => exact .inr (.inr ⟨rfl, fun _ => rfl, rfl⟩)
  | reload path => exact .inl ⟨path, rfl, rfl⟩
  | configs path => exact .inr (.inl ⟨path, rfl, rfl⟩)
  | discover path => exact .inr (.inl ⟨path, rfl, rfl⟩)
  | collect path => exact .inr (.inl ⟨path, rfl, rfl⟩)

namespace Coherent

variable {history : List Moment} {c : Collector}

theorem nil : Coherent [] .empty := fun _ => rfl

/-- A coherent collector works with what the history puts in force. -/
theorem inEffect_eq (h : Coherent history c) (w : World) (path : Path) :
    c.inEffect w.source path = Uncached.configs history w path := by
  have hpath := h path
  rw [Collector.inEffect]
  cases hfirst : firstLoad? history path with
  | none =>
    rw [hfirst] at hpath
    rw [hpath]
    apply Source.loadConfigs_congr
    simp only [Uncached.document, hfirst]
  | some contents =>
    rw [hfirst] at hpath
    obtain ⟨loaded, hkept, hload⟩ := hpath
    rw [hkept]
    symm
    rw [Uncached.configs, Source.loadConfigs_eq_ok_iff]
    exact ⟨contents, by simp only [Uncached.document, hfirst], hload⟩

theorem reload (h : Coherent history c) (w : World) (q : Path) :
    Coherent (history ++ [⟨w, .reload q⟩]) (c.reload q) := by
  intro path
  have hpath := h path
  rw [firstLoad?_concat, Collector.kept?_reload]
  by_cases hq : path.components = q.components
  · simp [Operation.reloads, hq]
  · have hq' : ¬ q.components = path.components := Ne.symm hq
    simp only [Operation.reloads, hq', decide_false, Bool.false_eq_true, if_false, hq,
      Moment.load?, Operation.document?, Option.or_none]
    exact hpath

theorem configs (h : Coherent history c) (w : World) {op : Operation} {q : Path}
    (hop : op.document? = some q) :
    Coherent (history ++ [⟨w, op⟩]) (c.configs w.source q).2 := by
  intro path
  have hpath := h path
  have hload : Moment.load? path ⟨w, op⟩ =
      if q.components = path.components then w.loadable? q else none := by
    simp only [Moment.load?, hop]
  rw [firstLoad?_concat, Operation.reloads_of_document? hop, Collector.kept?_configs, hload]
  simp only [Bool.false_eq_true, if_false]
  cases hfirst : firstLoad? history path with
  | some contents =>
    -- Something is in force, so the request is answered from the cache and loads nothing.
    rw [hfirst] at hpath
    obtain ⟨loaded, hkept, hcs⟩ := hpath
    refine ⟨loaded, ?_, hcs⟩
    split
    case isTrue hq =>
      rw [c.kept?_congr hq] at hkept
      rw [Collector.configs_of_some hkept, Except.toOption]
    case isFalse => exact hkept
  | none =>
    rw [hfirst] at hpath
    rw [Option.none_or]
    by_cases hq : path.components = q.components
    · rw [if_pos hq, if_pos hq.symm]
      rcases c.configs_cases w.source q with ⟨l, hk, _⟩ | ⟨e, -, he, hc⟩ | ⟨cs, -, hcs, hc⟩
      · rw [← c.kept?_congr hq, hpath] at hk
        cases hk
      · rw [World.loadable?_eq_none_of_error he, hc]
        rfl
      · obtain ⟨contents, hcontents, hdecoded⟩ := World.loadable?_of_ok hcs
        rw [hcontents, hc]
        exact ⟨_, rfl, hdecoded⟩
    · rw [if_neg hq, if_neg (Ne.symm hq)]
      exact hpath

/-- An operation keeps a session coherent. -/
theorem step {s : Session} (h : Coherent history s.collector) (op : Operation) :
    Coherent (history ++ [⟨s.world, op⟩]) (s.step op).2.collector := by
  rcases s.step_collector op with ⟨q, rfl, hc⟩ | ⟨q, hop, hc⟩ | ⟨hop, hreloads, hc⟩
  · rw [hc]
    exact h.reload s.world q
  · rw [hc]
    exact h.configs s.world hop
  · intro path
    have hload : Moment.load? path ⟨s.world, op⟩ = none := by simp only [Moment.load?, hop]
    rw [firstLoad?_concat, hreloads, hload, hc]
    simpa using h path

end Coherent

-- ════════════════════════════════════════════════════════════════════════
-- Answers
-- ════════════════════════════════════════════════════════════════════════

namespace Session

/-- A coherent session answers like the collector that keeps nothing, and goes on in the same
    world. -/
theorem step_eq_uncached {history : List Moment} {s : Session} (h : Coherent history s.collector)
    (op : Operation) :
    (s.step op).1.map LoadedSet.configs = (Uncached.answer history s.world op).1 ∧
      (s.step op).2.world = (Uncached.answer history s.world op).2 := by
  cases op with
  | write path contents => exact ⟨rfl, rfl⟩
  | setEnvironment environment processors => exact ⟨rfl, rfl⟩
  | setClock clock => exact ⟨rfl, rfl⟩
  | reload path => exact ⟨rfl, rfl⟩
  | configs path =>
    refine ⟨?_, rfl⟩
    rw [Uncached.answer, ← h.inEffect_eq, ← Collector.configs_fst]
    rfl
  | discover path =>
    refine ⟨?_, rfl⟩
    rw [Uncached.answer, ← h.inEffect_eq, ← Collector.discover_fst]
    rfl
  | collect path =>
    rw [Uncached.answer, ← h.inEffect_eq, ← Collector.collect_fst]
    exact ⟨rfl, rfl⟩

/-- The answers of a coherent session are those of the collector that keeps nothing. -/
theorem run_eq_uncached {history : List Moment} {s : Session} (h : Coherent history s.collector)
    (ops : List Operation) :
    (s.run ops).1.map (·.map LoadedSet.configs) = Uncached.run history s.world ops := by
  induction ops generalizing history s with
  | nil => rfl
  | cons op ops ih =>
    obtain ⟨hanswer, hworld⟩ := step_eq_uncached h op
    rw [run, Uncached.run, ← hanswer, ← hworld, ← ih (h.step op)]
    rfl

end Session

end Telemetry
