import Telemetry.Proofs.Collector.Freshness

/-!
# Agreement of concurrent requests

Several callers may find nothing kept, read different versions of a document, and race to keep what
they have read. The second look that keeping takes at the cache makes them agree: between two
removals all requests for a path return one set, and it is the set of a document that one of them
has read.

## Main definitions

- `Shared.Execution` — a run with all the states that it passes
- `Shared.Execution.ReadsAt` — a step at which a caller reads and decodes a document
- `Shared.Execution.Accounted` — everything that can be returned has been read

## Main statements

- `Shared.run_iff_execution` — executions are the runs
- `Shared.Step.kept?_stays`, `Shared.Step.kept?_cases`, `Shared.Step.calls_cases` — what a step does
  to the cache and to the callers
- `Shared.Execution.accounted` — the invariant holds throughout an execution
- `Shared.Execution.agreement` — where sets come from, that requests agree, and that failures leave
  no trace
-/

namespace Telemetry

namespace Shared

-- ════════════════════════════════════════════════════════════════════════
-- Executions
-- ════════════════════════════════════════════════════════════════════════

/-- A run from a state, with the event of each step and the states before and after it. -/
structure Execution (s : Shared) where
  length : Nat
  state : Nat → Shared
  event : Nat → Event
  state_zero : state 0 = s
  step : ∀ n < length, Step (state n) (event n) (state (n + 1))

namespace Execution

/-- The execution without steps. -/
def nil (s : Shared) : Execution s where
  length := 0
  state := fun _ => s
  event := fun _ => .silent
  state_zero := rfl
  step := nofun

/-- An execution with a step in front of it. -/
def cons {s s' : Shared} {e : Event} (h : Step s e s') (r : Execution s') : Execution s where
  length := r.length + 1
  state
    | 0 => s
    | n + 1 => r.state n
  event
    | 0 => e
    | n + 1 => r.event n
  state_zero := rfl
  step := by
    intro n hn
    cases n with
    | zero => simpa only [r.state_zero] using h
    | succ n => exact r.step n (Nat.lt_of_succ_lt_succ hn)

/-- The events of the first steps. -/
def events {s : Shared} (r : Execution s) (n : Nat) : List Event :=
  (List.range n).map r.event

end Execution

theorem Run.concat {s s' s'' : Shared} {es : List Event} {e : Event} (h : Run s es s')
    (step : Step s' e s'') : Run s (es ++ [e]) s'' := by
  induction h with
  | nil => exact .cons step .nil
  | cons hstep _ ih => exact .cons hstep (ih step)

/-- The beginnings of an execution are runs. -/
theorem Execution.run {s : Shared} (r : Execution s) {n : Nat} (hn : n ≤ r.length) :
    Run s (r.events n) (r.state n) := by
  induction n with
  | zero =>
    rw [r.state_zero]
    exact .nil
  | succ n ih =>
    have hrun := (ih (by omega)).concat (r.step n hn)
    simpa [events, List.range_succ] using hrun

/-- Executions are the runs, with their states. -/
theorem run_iff_execution {s s' : Shared} {es : List Event} :
    Run s es s' ↔ ∃ r : Execution s, r.events r.length = es ∧ r.state r.length = s' := by
  constructor
  · intro h
    induction h with
    | @nil s => exact ⟨.nil s, rfl, rfl⟩
    | @cons s s' s'' e es hstep _ ih =>
      obtain ⟨r, hevents, hstate⟩ := ih
      refine ⟨.cons hstep r, ?_, hstate⟩
      have hshift : (Execution.cons hstep r).event ∘ Nat.succ = r.event := rfl
      change (List.range (r.length + 1)).map (Execution.cons hstep r).event = e :: es
      rw [List.range_succ_eq_map, List.map_cons, List.map_map, hshift]
      exact congrArg (e :: ·) hevents
  · rintro ⟨r, rfl, rfl⟩
    exact r.run le_rfl

-- ════════════════════════════════════════════════════════════════════════
-- Steps
-- ════════════════════════════════════════════════════════════════════════

section Steps

variable {s s' : Shared} {e : Event} {path : Path} {loaded : LoadedSet}

/-- A set stays until it is given up. -/
theorem Step.kept?_stays (h : Step s e s') (hkept : s.collector.kept? path = some loaded)
    (he : ∀ q, e = .reloaded q → q.components ≠ path.components) :
    s'.collector.kept? path = some loaded := by
  cases h with
  | hit | miss | fail | load | rewrite => exact hkept
  | @keep x q start readAt configs _ =>
    change (s.collector.keep q configs).2.kept? path = some loaded
    rw [Collector.kept?_keep]
    by_cases hq : path.components = q.components
    · have hkept' : s.collector.kept? q = some loaded := by rw [← s.collector.kept?_congr hq, hkept]
      rw [if_pos hq, Collector.keep_of_some hkept']
    · rw [if_neg hq, hkept]
  | reload q =>
    change (s.collector.reload q).kept? path = some loaded
    have hq : ¬ path.components = q.components := fun hq => he q rfl hq.symm
    rw [Collector.kept?_reload, if_neg hq, hkept]

/-- A set that is kept was kept before, or is what a caller was about to keep. -/
theorem Step.kept?_cases (h : Step s e s') (hkept : s'.collector.kept? path = some loaded) :
    s.collector.kept? path = some loaded ∨
      ∃ x q start readAt, s.calls x = .loaded q start readAt loaded.configs ∧
        q.components = path.components := by
  cases h with
  | hit | miss | fail | load | rewrite => exact .inl hkept
  | @keep x q start readAt configs hx =>
    change (s.collector.keep q configs).2.kept? path = some loaded at hkept
    rw [Collector.kept?_keep] at hkept
    by_cases hq : path.components = q.components
    · rw [if_pos hq] at hkept
      cases hkept' : s.collector.kept? q with
      | some l =>
        -- The second look finds a set, so the caller gets that one.
        rw [Collector.keep_of_some hkept'] at hkept
        left
        rw [s.collector.kept?_congr hq, hkept', hkept]
      | none =>
        rw [Collector.keep_of_none hkept'] at hkept
        obtain rfl := Option.some.inj hkept
        exact .inr ⟨x, q, start, readAt, hx, hq.symm⟩
    · rw [if_neg hq] at hkept
      exact .inl hkept
  | reload q =>
    change (s.collector.reload q).kept? path = some loaded at hkept
    rw [Collector.kept?_reload] at hkept
    by_cases hq : path.components = q.components
    · rw [if_pos hq] at hkept
      cases hkept
    · rw [if_neg hq] at hkept
      exact .inl hkept

/-- What a caller has loaded it had loaded before, or loads in this step. -/
theorem Step.calls_cases {x : Nat} {q : Path} {start readAt : Nat} {configs : List Configuration}
    (h : Step s e s') (hx : s'.calls x = .loaded q start readAt configs) :
    s.calls x = .loaded q start readAt configs ∨
      ∃ y, e = .silent ∧ s.calls y = .missed q start ∧ s.source.loadConfigs q = .ok configs ∧
        s' = s.move y (.loaded q start s.time configs) := by
  cases h with
  | hit | miss | fail | keep =>
    rcases calls_move_eq_loaded hx with hx | hcall
    · exact .inl hx
    · cases hcall
  | @load y _ _ _ hmissed hload =>
    rcases calls_move_eq_loaded hx with hx | hcall
    · exact .inl hx
    · cases hcall
      exact .inr ⟨y, rfl, hmissed, hload, rfl⟩
  | reload | rewrite => exact .inl hx

/-- A step that shows nothing leaves the cache as it is. -/
theorem Step.collector_of_silent (h : Step s .silent s') : s'.collector = s.collector := by
  cases h <;> rfl

/-- A request fails because its document cannot be loaded, and leaves the cache as it is. -/
theorem Step.of_failed {o : Reply} {err : CollectError} (h : Step s (.returned o) s')
    (hresult : o.result = .error err) :
    s.source.loadConfigs o.path = .error err ∧ s'.collector = s.collector := by
  cases h with
  | hit | keep => cases hresult
  | fail hmissed hload =>
    cases hresult
    exact ⟨hload, rfl⟩

end Steps

-- ════════════════════════════════════════════════════════════════════════
-- Where sets come from
-- ════════════════════════════════════════════════════════════════════════

namespace Execution

variable {s : Shared} (r : Execution s)

/-- At the `n`-th step a caller, which has found nothing kept, reads a document as it is at that
    moment, and decodes it. -/
def ReadsAt (n : Nat) (path : Path) (configs : List Configuration) : Prop :=
  ∃ x start contents, r.event n = .silent ∧ (r.state n).calls x = .missed path start ∧
    (r.state n).source.read path = .ok contents ∧ Configuration.load contents = .ok configs ∧
    r.state (n + 1) = (r.state n).move x (.loaded path start (r.state n).time configs)

/-- Everything that can be returned after `n` steps has been read by a caller in one of them: what
    is kept, and what callers are about to keep. -/
structure Accounted (n : Nat) : Prop where
  calls : ∀ x q start readAt configs, (r.state n).calls x = .loaded q start readAt configs →
    ∃ m < n, r.ReadsAt m q configs
  kept : ∀ path loaded, (r.state n).collector.kept? path = some loaded →
    ∃ m < n, ∃ q, q.components = path.components ∧ r.ReadsAt m q loaded.configs

variable {r} {n : Nat}

theorem Accounted.step (h : r.Accounted n) (hn : n < r.length) : r.Accounted (n + 1) where
  calls := by
    intro x q start readAt configs hx
    rcases (r.step n hn).calls_cases hx with hx | ⟨y, hevent, hmissed, hload, hmove⟩
    · obtain ⟨m, hm, hread⟩ := h.calls x q start readAt configs hx
      exact ⟨m, by omega, hread⟩
    · obtain ⟨contents, hread, hdecode⟩ := (Source.loadConfigs_eq_ok_iff _ _ _).mp hload
      exact ⟨n, by omega, y, start, contents, hevent, hmissed, hread, hdecode, hmove⟩
  kept := by
    intro path loaded hkept
    rcases (r.step n hn).kept?_cases hkept with hkept | ⟨x, q, start, readAt, hx, hq⟩
    · obtain ⟨m, hm, hread⟩ := h.kept path loaded hkept
      exact ⟨m, by omega, hread⟩
    · obtain ⟨m, hm, hread⟩ := h.calls x q start readAt loaded.configs hx
      exact ⟨m, by omega, q, hq, hread⟩

/-- Throughout an execution that starts before any request, everything that can be returned has
    been read in it. -/
theorem accounted {source : Source} (r : Execution (start source)) (hn : n ≤ r.length) :
    r.Accounted n := by
  induction n with
  | zero =>
    constructor
    · intro x q start readAt configs hx
      rw [r.state_zero] at hx
      cases hx
    · intro path loaded hkept
      rw [r.state_zero] at hkept
      cases hkept
  | succ n ih => exact (ih (by omega)).step hn

-- ════════════════════════════════════════════════════════════════════════
-- Agreement
-- ════════════════════════════════════════════════════════════════════════

/-- A set stays as long as it is not given up. -/
theorem kept?_of_not_reloaded {m : Nat} {path : Path} {loaded : LoadedSet}
    (hkept : (r.state m).collector.kept? path = some loaded) (hmn : m ≤ n) (hn : n ≤ r.length)
    (h : ∀ k, m ≤ k → k < n → ∀ q, r.event k = .reloaded q → q.components ≠ path.components) :
    (r.state n).collector.kept? path = some loaded := by
  induction n, hmn using Nat.le_induction with
  | base => exact hkept
  | succ n hmn ih =>
    have hbefore : (r.state n).collector.kept? path = some loaded :=
      ih (by omega) fun k hk hkn => h k hk (by omega)
    exact (r.step n hn).kept?_stays hbefore (h n hmn (by omega))

/-- What a request returns at a step is kept after it. -/
theorem kept?_of_event {o : Reply} {loaded : LoadedSet} (hn : n < r.length)
    (hevent : r.event n = .returned o) (hresult : o.result = .ok loaded) :
    (r.state (n + 1)).collector.kept? o.path = some loaded := by
  have hstep := r.step n hn
  rw [hevent] at hstep
  exact hstep.kept?_of_returned hresult

/-- In every execution a request that succeeds returns the decoding of a document as some request
    for the path has read it, whole, at one earlier step. Two requests for a path return one and the
    same set if the path is not given up between the steps with which they end, whatever they have
    read themselves. The steps of a request that fails leave the cache as it is, and it fails for
    what it has met at its last step. -/
theorem agreement {source : Source} (r : Execution (start source)) :
    (∀ n < r.length, ∀ o loaded, r.event n = .returned o → o.result = .ok loaded →
      ∃ m < n, ∃ q, q.components = o.path.components ∧ r.ReadsAt m q loaded.configs) ∧
    (∀ m n, m < n → n < r.length → ∀ o o' loaded loaded',
      r.event m = .returned o → r.event n = .returned o' →
      o.path.components = o'.path.components →
      o.result = .ok loaded → o'.result = .ok loaded' →
      (∀ k, m < k → k < n → ∀ q, r.event k = .reloaded q →
        q.components ≠ o.path.components) →
      loaded = loaded') ∧
    (∀ n < r.length, r.event n = .silent →
      (r.state (n + 1)).collector = (r.state n).collector) ∧
    ∀ n < r.length, ∀ o e, r.event n = .returned o → o.result = .error e →
      (r.state n).source.loadConfigs o.path = .error e ∧
        (r.state (n + 1)).collector = (r.state n).collector := by
  refine ⟨?_, ?_, ?_, ?_⟩
  · intro n hn o loaded hevent hresult
    have hkept := kept?_of_event hn hevent hresult
    obtain ⟨m, hm, q, hq, hread⟩ := (r.accounted hn).kept o.path loaded hkept
    refine ⟨m, ?_, q, hq, hread⟩
    -- The last step of a request is no reading.
    by_contra hmn
    obtain rfl : m = n := by omega
    obtain ⟨x, start, contents, hsilent, _⟩ := hread
    rw [hevent] at hsilent
    cases hsilent
  · intro m n hmn hn o o' loaded loaded' hm hn' hpath hresult hresult' hreloads
    have hkept := kept?_of_event (by omega) hm hresult
    have hlast : (r.state (n + 1)).collector.kept? o.path = some loaded := by
      refine kept?_of_not_reloaded hkept (by omega) (by omega) fun k hk hkn q hq => ?_
      by_cases hkn' : k = n
      · subst hkn'
        rw [hn'] at hq
        cases hq
      · exact hreloads k (by omega) (by omega) q hq
    have hlast' := kept?_of_event hn hn' hresult'
    rw [← (r.state (n + 1)).collector.kept?_congr hpath, hlast] at hlast'
    exact Option.some.inj hlast'
  · intro n hn hevent
    have hstep := r.step n hn
    rw [hevent] at hstep
    exact hstep.collector_of_silent
  · intro n hn o e hevent hresult
    have hstep := r.step n hn
    rw [hevent] at hstep
    exact hstep.of_failed hresult

/-- Two callers find nothing kept and read different documents. The second keeps its set first, and
    the first gets that set instead of the one it has read. -/
theorem agreement_race :
    let document := "[\x7b\"file\":\"f\",\"parser\":\x7b\"format\":\"key-row\"\x7d\x7d]".toList
    let old := (FlatStore.empty.add ['a'] ['[', ']']).source
    let new := (FlatStore.empty.add ['a'] document).source
    let config : Configuration := ⟨['f'], [], .empty, .keyRow⟩
    ∃ r : Execution (start old), r.length = 7 ∧ (r.state 6).source = new ∧
      (r.state 6).calls 0 = .loaded ['a'] 0 2 [] ∧
      r.event 5 = .returned ⟨['a', '/'], 1, .ok ⟨0, [config]⟩⟩ ∧
      ∃ loaded, r.event 6 = .returned ⟨['a'], 0, .ok loaded⟩ ∧ loaded = ⟨0, [config]⟩ := by
  intro document old new config
  have htokens : Json.tokens document =
      [.openArray, .openObject, .string (some "file".toList), .colon, .string (some ['f']), .comma,
        .string (some "parser".toList), .colon, .openObject, .string (some "format".toList), .colon,
        .string (some "key-row".toList), .closeObject, .closeObject, .closeArray] := by
    simp +decide [document, Json.tokens_cons, Json.scanToken, Json.scanString, Json.tokens]
  have hdecode : Configuration.load document = .ok [config] := by
    rw [Configuration.load, RawConfiguration.decodeAll, htokens]
    rfl
  have hold : old.loadConfigs ['a'] = .ok [] := by cbv
  have hnew : new.loadConfigs ['a', '/'] = .ok [config] :=
    (Source.loadConfigs_eq_ok_iff _ _ _).mpr ⟨document, rfl, hdecode⟩
  let r : Execution (start old) :=
    .cons (@Step.miss _ 0 ['a'] rfl rfl) <|
    .cons (@Step.miss _ 1 ['a', '/'] rfl rfl) <|
    .cons (.load (x := 0) rfl hold) <|
    .cons (.rewrite new) <|
    .cons (.load (x := 1) rfl hnew) <|
    .cons (.keep (x := 1) rfl) <|
    .cons (.keep (x := 0) rfl) <| .nil _
  have hpath : Path.components ['a', '/'] = Path.components ['a'] := by decide
  have hlength : r.length = 7 := rfl
  have hfirst : r.event 5 = .returned ⟨['a', '/'], 1, .ok ⟨0, [config]⟩⟩ := rfl
  obtain ⟨loaded, hlast⟩ : ∃ loaded, r.event 6 = .returned ⟨['a'], 0, .ok loaded⟩ := ⟨_, rfl⟩
  have hagree : (⟨0, [config]⟩ : LoadedSet) = loaded := by
    refine r.agreement.2.1 5 6 (by decide) (by omega) _ _ _ _ hfirst hlast hpath rfl rfl ?_
    intro k hk hk'
    omega
  exact ⟨r, hlength, rfl, rfl, hfirst, loaded, hlast, hagree.symm⟩

end Execution

end Shared

end Telemetry
