import Mathlib.Data.List.Permutation
import Telemetry.Proofs.Collector.Coherence

/-!
# Refinement of the collector without a cache

What a session answers, which sets in it are one and the same, and what its operations leave as it
was.

## Main definitions

- `Collector.SerialsFrom` — the set of a path has been loaded in some span of loadings

## Main statements

- `Session.serial_eq_iff` — two requests get the same set exactly if it was not given up between
- `Session.refines_uncached` — a session refines the collector that keeps nothing
-/

namespace Telemetry

namespace Collector

/-- The set that is kept for a path, if there is one, was loaded when `n` sets or more had been
    loaded before. -/
structure SerialsFrom (c : Collector) (path : Path) (n : Nat) : Prop where
  le_loads : n ≤ c.loads
  serial : ∀ loaded, c.kept? path = some loaded → n ≤ loaded.serial ∧ loaded.serial < c.loads

namespace SerialsFrom

variable {c : Collector} {path : Path} {n : Nat}

theorem empty (path : Path) : SerialsFrom .empty path 0 := ⟨le_rfl, nofun⟩

theorem of_kept?_eq_none (h : c.kept? path = none) (hn : n ≤ c.loads) : c.SerialsFrom path n := by
  refine ⟨hn, fun loaded hkept => ?_⟩
  cases h.symm.trans hkept

theorem reload (h : c.SerialsFrom path n) (q : Path) : (c.reload q).SerialsFrom path n := by
  refine ⟨h.le_loads, fun loaded hkept => ?_⟩
  rw [kept?_reload] at hkept
  split at hkept
  · cases hkept
  · exact h.serial loaded hkept

theorem configs (h : c.SerialsFrom path n) (source : Source) (q : Path) :
    (c.configs source q).2.SerialsFrom path n := by
  rcases c.configs_cases source q with ⟨l, -, hc⟩ | ⟨e, -, -, hc⟩ | ⟨cs, hq, -, hc⟩
  · rw [hc]
    exact h
  · rw [hc]
    exact h
  · have hle := h.le_loads
    have hloads : (c.configs source q).2.loads = c.loads + 1 := by rw [hc, keep_of_none hq]
    refine ⟨by omega, fun loaded hkept => ?_⟩
    rw [kept?_configs] at hkept
    split at hkept
    · obtain rfl : ⟨c.loads, cs⟩ = loaded := by simpa [hc, Except.toOption] using hkept
      rw [hloads]
      exact ⟨hle, Nat.lt_succ_self _⟩
    · have hserial := h.serial loaded hkept
      omega

end SerialsFrom

end Collector

namespace Session

open Collector (SerialsFrom)

variable {path : Path} {n : Nat}

theorem serialsFrom_step {s : Session} (h : s.collector.SerialsFrom path n) (op : Operation) :
    (s.step op).2.collector.SerialsFrom path n := by
  rcases s.step_collector op with ⟨q, -, hc⟩ | ⟨q, -, hc⟩ | ⟨-, -, hc⟩
  · rw [hc]
    exact h.reload q
  · rw [hc]
    exact h.configs s.world.source q
  · rw [hc]
    exact h

theorem serialsFrom_run {s : Session} (h : s.collector.SerialsFrom path n)
    (ops : List Operation) : (s.run ops).2.collector.SerialsFrom path n := by
  induction ops generalizing s with
  | nil => exact h
  | cons op ops ih => exact ih (serialsFrom_step h op)

/-- A set stays until it is given up. -/
theorem kept?_step {s : Session} {loaded : LoadedSet} (h : s.collector.kept? path = some loaded)
    {op : Operation} (hop : op.reloads path = false) :
    (s.step op).2.collector.kept? path = some loaded := by
  rcases s.step_collector op with ⟨q, rfl, hc⟩ | ⟨q, -, hc⟩ | ⟨-, -, hc⟩
  · have hq : ¬ path.components = q.components := by simpa [Operation.reloads, eq_comm] using hop
    rw [hc, Collector.kept?_reload, if_neg hq, h]
  · rw [hc, Collector.kept?_configs]
    split
    case isTrue hq =>
      rw [s.collector.kept?_congr hq] at h
      rw [Collector.configs_of_some h, Except.toOption]
    case isFalse => exact h
  · rw [hc, h]

theorem kept?_run {s : Session} {loaded : LoadedSet} (h : s.collector.kept? path = some loaded)
    {ops : List Operation} (hops : ∀ op ∈ ops, op.reloads path = false) :
    (s.run ops).2.collector.kept? path = some loaded := by
  induction ops generalizing s with
  | nil => exact h
  | cons op ops ih =>
    have hstep := kept?_step h (hops op List.mem_cons_self)
    exact ih hstep fun op' hop' => hops op' (List.mem_cons_of_mem op hop')

theorem run_append (s : Session) (ops ops' : List Operation) :
    (s.run (ops ++ ops')).2 = ((s.run ops).2.run ops').2 := by
  induction ops generalizing s with
  | nil => rfl
  | cons op ops ih => exact ih (s.step op).2

theorem loads_step (s : Session) (op : Operation) :
    s.collector.loads ≤ (s.step op).2.collector.loads := by
  rcases s.step_collector op with ⟨q, -, hc⟩ | ⟨q, -, hc⟩ | ⟨-, -, hc⟩
  · rw [hc, Collector.loads_reload]
  · rw [hc]
    exact Collector.loads_configs _ _ _
  · rw [hc]

theorem loads_run (s : Session) (ops : List Operation) :
    s.collector.loads ≤ (s.run ops).2.collector.loads := by
  induction ops generalizing s with
  | nil => exact le_rfl
  | cons op ops ih => exact (s.loads_step op).trans (ih (s.step op).2)

/-- The set that a request has given is the one that is kept. -/
theorem kept?_of_configs {s : Session} {loaded : LoadedSet} {q : Path}
    (hq : path.components = q.components) (h : (s.step (.configs q)).1 = .set (.ok loaded)) :
    (s.step (.configs q)).2.collector.kept? path = some loaded := by
  have hanswer : (s.collector.configs s.world.source q).1 = .ok loaded := Answer.set.inj h
  change (s.collector.configs s.world.source q).2.kept? path = _
  rw [Collector.kept?_configs, if_pos hq, hanswer, Except.toOption]

/-- After a set has been given up, the next one has a later number. -/
theorem serial_lt_of_reloads {s : Session} {a : LoadedSet}
    (ha : a.serial < s.collector.loads) {between : List Operation} {op : Operation}
    (hop : op ∈ between) (hreloads : op.reloads path = true) :
    (s.run between).2.collector.SerialsFrom path (a.serial + 1) := by
  obtain ⟨before, after, rfl⟩ := List.append_of_mem hop
  rw [run_append]
  have hloads := (loads_run s before).trans (loads_step (s.run before).2 op)
  refine serialsFrom_run (.of_kept?_eq_none ?_ (by omega)) after
  cases op with
  | reload q =>
    have hq : q.components = path.components := by simpa [Operation.reloads] using hreloads
    exact (Collector.kept?_reload _ _ _).trans (if_pos hq.symm)
  | _ => cases hreloads

/-- Two requests get one and the same set exactly if it was not given up between them. -/
theorem serial_eq_iff {s : Session} (hs : s.collector.SerialsFrom path 0) {q : Path}
    (hq : path.components = q.components) {between : List Operation} {a b : LoadedSet}
    (ha : (s.step (.configs path)).1 = .set (.ok a))
    (hb : (((s.step (.configs path)).2.run between).2.step (.configs q)).1 = .set (.ok b)) :
    (a.serial = b.serial ↔ ∀ op ∈ between, op.reloads path = false) ∧
      (a.serial = b.serial → a = b) := by
  have hkept := kept?_of_configs rfl ha
  by_cases hops : ∀ op ∈ between, op.reloads path = false
  · have hlater := kept?_run hkept hops
    have hfinal := kept?_step hlater (show (Operation.configs q).reloads path = false from rfl)
    obtain rfl : b = a := Option.some.inj ((kept?_of_configs hq hb).symm.trans hfinal)
    exact ⟨⟨fun _ => hops, fun _ => rfl⟩, fun _ => rfl⟩
  · -- All sets of the path that are kept after the removal are newer than `a`.
    obtain ⟨op, hop, hreloads⟩ : ∃ op ∈ between, op.reloads path = true := by simpa using hops
    have hserial := (serialsFrom_step hs (.configs path)).serial a hkept
    have hnewer := serialsFrom_step (serial_lt_of_reloads hserial.2 hop hreloads) (.configs q)
    have hlt := (hnewer.serial b (kept?_of_configs hq hb)).1
    have hne : a.serial ≠ b.serial := by omega
    exact ⟨⟨fun h => absurd h hne, fun h => absurd h hops⟩, fun h => absurd h hne⟩

/-- An operation fails only if its document is not kept and cannot be loaded. -/
theorem configs_of_failed {s : Session} {op : Operation} (hop : op.document? = some path)
    (hfailed : (s.step op).1.failed = true) :
    ∃ e, (s.collector.configs s.world.source path).1 = .error e := by
  cases h : (s.collector.configs s.world.source path).1 with
  | error e => exact ⟨e, rfl⟩
  | ok loaded =>
    cases op with
    | configs q =>
      obtain rfl := Option.some.inj hop
      change (Answer.set (s.collector.configs s.world.source q).1).failed = true at hfailed
      rw [h] at hfailed
      cases hfailed
    | discover q =>
      obtain rfl := Option.some.inj hop
      change (Answer.namespaces (σ := LoadedSet)
        (s.collector.discover s.world.source q).1).failed = true at hfailed
      rw [Collector.discover_fst, ← Collector.configs_fst, h] at hfailed
      cases hfailed
    | collect q =>
      obtain rfl := Option.some.inj hop
      change (Answer.harvest (σ := LoadedSet) (s.collector.collect s.world.source s.world.defaults
        s.world.clock q).1).failed = true at hfailed
      rw [Collector.collect_fst, ← Collector.configs_fst, h] at hfailed
      cases hfailed
    | _ => cases hop

/-- An operation that fails leaves no trace, and whatever asks for its document next has to load
    it. -/
theorem collector_of_failed {s : Session} {op : Operation} (hop : op.document? = some path)
    (hfailed : (s.step op).1.failed = true) :
    (s.step op).2.collector = s.collector ∧ s.collector.kept? path = none := by
  obtain ⟨e, he⟩ := configs_of_failed hop hfailed
  rcases s.step_collector op with ⟨q, rfl, -⟩ | ⟨q, hq, hc⟩ | ⟨hnone, -, -⟩
  · cases hop
  · obtain rfl : path = q := Option.some.inj (hop.symm.trans hq)
    rcases s.collector.configs_cases s.world.source path with
      ⟨l, -, h⟩ | ⟨e', hkept, -, h⟩ | ⟨cs, -, -, h⟩
    · rw [h] at he
      cases he
    · rw [hc, h]
      exact ⟨rfl, hkept⟩
    · rw [h] at he
      cases he
  · cases hop.symm.trans hnone

/-- A session refines the collector that keeps nothing. Every answer is the one for the document
    that the history puts in force and the present state of all other files. Two requests for sets
    of a path get the same one exactly if it was not given up between them. An operation that fails
    leaves no trace, so that the document is read again; giving up a set touches no other; and what
    a document announces depends on no other file. -/
theorem refines_uncached (w : World) :
    (∀ ops, ((start w).run ops).1.map (·.map LoadedSet.configs) = Uncached.run [] w ops) ∧
    (∀ (before between : List Operation) (path q : Path) (a b : LoadedSet),
      path.components = q.components →
      (((start w).run before).2.step (.configs path)).1 = .set (.ok a) →
      (((((start w).run before).2.step (.configs path)).2.run between).2.step (.configs q)).1 =
        .set (.ok b) →
      (a.serial = b.serial ↔ ∀ op ∈ between, op.reloads path = false) ∧
        (a.serial = b.serial → a = b)) ∧
    (∀ (s : Session) (op : Operation) (path : Path), op.document? = some path →
      (s.step op).1.failed = true →
      (s.step op).2.collector = s.collector ∧
        ∀ (source : Source) (q : Path), path.components = q.components →
          (s.step op).2.collector.inEffect source q = source.loadConfigs q) ∧
    (∀ (s : Session) (path q : Path),
      (s.step (.reload path)).2.collector.kept? q =
        if q.components = path.components then none else s.collector.kept? q) ∧
    ∀ (s s' : Session) (path : Path), s.collector = s'.collector →
      s.world.source.read path = s'.world.source.read path →
      (s.step (.discover path)).1 = (s'.step (.discover path)).1 ∧
        (s.step (.discover path)).2.collector = (s'.step (.discover path)).2.collector := by
  refine ⟨run_eq_uncached .nil, ?_, ?_, fun s => s.collector.kept?_reload, ?_⟩
  · intro before between path q a b hq ha hb
    have hserials := serialsFrom_run (SerialsFrom.empty path) before (s := start w)
    exact serial_eq_iff hserials hq ha hb
  · intro s op path hop hfailed
    obtain ⟨hc, hkept⟩ := collector_of_failed hop hfailed
    refine ⟨hc, fun source q hq => ?_⟩
    rw [s.collector.kept?_congr hq] at hkept
    rw [hc, Collector.inEffect, hkept]
  · intro s s' path hcollector hread
    have hconfigs : s.collector.configs s.world.source path =
        s'.collector.configs s'.world.source path := by
      rw [hcollector, Collector.configs, Collector.configs, Source.loadConfigs_congr hread]
    have hdiscover : s.collector.discover s.world.source path =
        s'.collector.discover s'.world.source path := by
      rw [Collector.discover, Collector.discover, hconfigs]
    constructor
    · exact congrArg (fun r => Answer.namespaces r.1) hdiscover
    · change (s.collector.discover s.world.source path).2 =
        (s'.collector.discover s'.world.source path).2
      rw [hdiscover]

/-- A set is given up under another spelling of its path, and the document is loaded anew. -/
theorem refines_uncached_other_spelling :
    let w : World := ⟨FlatStore.empty.add ['a'] ['[', ']'], [], 1, .fixed ⟨0, 0⟩⟩
    let between : List Operation := [.write ['b'] [], .reload ['a', '/']]
    let s := (start w).run [.discover ['b']]
    let s' := (s.2.step (.configs ['a'])).2.run between
    (s.2.step (.configs ['a'])).1 = .set (.ok ⟨0, []⟩) ∧
      (s'.2.step (.configs ['a', '/', '.'])).1 = .set (.ok ⟨1, []⟩) ∧
      ((0 : Nat) = 1 ↔ ∀ op ∈ between, op.reloads ['a'] = false) := by
  intro w between s s'
  have ha : (s.2.step (.configs ['a'])).1 = .set (.ok ⟨0, []⟩) := by cbv
  have hb : (s'.2.step (.configs ['a', '/', '.'])).1 = .set (.ok ⟨1, []⟩) := by cbv
  have h := (refines_uncached w).2.1 [.discover ['b']] between ['a'] ['a', '/', '.'] _ _
    (by decide) ha hb
  exact ⟨ha, hb, h.1⟩

end Session

end Telemetry
