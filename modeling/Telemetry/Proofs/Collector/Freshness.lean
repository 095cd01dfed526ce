import Mathlib.Data.List.Permutation
import Telemetry.Proofs.Collector.Interleaving
import Telemetry.Source.FlatStore

/-!
# Freshness after a removal

Giving up the set of a path is meant to make the next request read the document again. That holds
exactly if no request for the path is between its reading and its keeping at that moment: such a
request can still keep what it has read before, and later requests get it.

## Main definitions

- `Shared.StaysFresh` — no request that starts after a removal gets contents read before it
- `Call.HasRead` — a caller is between reading and keeping
- `Shared.FreshSince` — whatever can be returned for a path was read after some instant
- `Shared.HasReadBefore` — what callers are about to keep was read before

## Main statements

- `Shared.FreshSince.step`, `Shared.FreshSince.run` — freshness lasts
- `Shared.staysFresh_of_not_hasRead`, `Shared.stale_of_hasRead` — what becomes of a removal
- `Shared.staysFresh_iff` — when a removal is followed by fresh sets only
- `Shared.not_staysFresh` — a schedule in which it is not
-/

namespace Telemetry

/-- The caller has read the document of a path and not yet kept what it has read. -/
def Call.HasRead (path : Path) : Call → Prop
  | loaded q _ _ _ => q.components = path.components
  | _ => False

namespace Shared

/-- If the set of a path is given up now, no request for the path that starts later gets a set whose
    contents were read before. -/
def StaysFresh (s : Shared) (path : Path) : Prop :=
  ∀ es s' o s'' loaded, Run (s.reload path) es s' → Step s' (.returned o) s'' →
    o.path.components = path.components → s.time < o.start → o.result = .ok loaded →
    s.time < s''.origin loaded.serial

/-- Whatever can be returned for a path was read after an instant: what is kept, and what callers
    are about to keep. -/
structure FreshSince (s : Shared) (path : Path) (t : Nat) : Prop where
  time : t < s.time
  calls : ∀ x q start readAt configs, s.calls x = .loaded q start readAt configs →
    q.components = path.components → t < readAt
  kept : ∀ loaded, s.collector.kept? path = some loaded →
    loaded.serial < s.collector.loads ∧ t < s.origin loaded.serial

-- ════════════════════════════════════════════════════════════════════════
-- Steps
-- ════════════════════════════════════════════════════════════════════════

theorem calls_move_eq_loaded {s : Shared} {x y : Nat} {call : Call} {q : Path}
    {start readAt : Nat} {configs : List Configuration}
    (h : (s.move x call).calls y = .loaded q start readAt configs) :
    s.calls y = .loaded q start readAt configs ∨ call = .loaded q start readAt configs := by
  by_cases hxy : y = x
  · subst hxy
    exact .inr (by simpa [move] using h)
  · exact .inl (by simpa [move, hxy] using h)

/-- What a request returns is kept from then on. -/
theorem Step.kept?_of_returned {s s' : Shared} {o : Reply} {loaded : LoadedSet}
    (h : Step s (.returned o) s') (hresult : o.result = .ok loaded) :
    s'.collector.kept? o.path = some loaded := by
  cases h with
  | hit idle kept =>
    cases hresult
    exact kept
  | fail missed load => cases hresult
  | keep hloaded =>
    cases hresult
    exact (Collector.kept?_keep _ _ _ _).trans (if_pos rfl)

namespace FreshSince

variable {s s' : Shared} {path : Path} {t : Nat} {e : Event}

/-- A caller may come to any point at which it has not read, or has read only now. -/
theorem move (h : s.FreshSince path t) (x : Nat) {call : Call}
    (hcall : ∀ q start readAt configs, call = .loaded q start readAt configs → t < readAt) :
    (s.move x call).FreshSince path t where
  time := Nat.lt_succ_of_lt h.time
  calls := by
    intro y q start readAt configs hy hq
    rcases calls_move_eq_loaded hy with hy | rfl
    · exact h.calls y q start readAt configs hy hq
    · exact hcall q start readAt configs rfl
  kept := h.kept

theorem keep (h : s.FreshSince path t) {x : Nat} {q : Path} {start readAt : Nat}
    {configs : List Configuration} (hx : s.calls x = .loaded q start readAt configs) :
    (s.keep x q readAt configs).FreshSince path t := by
  have hmove : (s.move x .idle).FreshSince path t := h.move x nofun
  refine ⟨hmove.time, hmove.calls, fun loaded hloaded => ?_⟩
  change (s.collector.keep q configs).2.kept? path = some loaded at hloaded
  change loaded.serial < (s.collector.keep q configs).2.loads ∧
    t < s.originAfter q readAt loaded.serial
  rw [Collector.kept?_keep] at hloaded
  cases hq : s.collector.kept? q with
  | some l =>
    -- What is kept already stays, and what the caller has read is lost.
    rw [Collector.keep_of_some hq] at hloaded ⊢
    simp only [originAfter, hq]
    split at hloaded
    case isTrue heq =>
      rw [← s.collector.kept?_congr heq, hloaded] at hq
      exact h.kept loaded hq
    case isFalse => exact h.kept loaded hloaded
  | none =>
    -- The new set gets a number that no kept set has, so their instants stay apart.
    rw [Collector.keep_of_none hq] at hloaded ⊢
    simp only [originAfter, hq]
    split at hloaded
    case isTrue heq =>
      obtain rfl := Option.some.inj hloaded
      refine ⟨Nat.lt_succ_self _, ?_⟩
      rw [Function.update_self]
      exact h.calls x q start readAt configs hx heq.symm
    case isFalse =>
      obtain ⟨hserial, horigin⟩ := h.kept loaded hloaded
      refine ⟨Nat.lt_succ_of_lt hserial, ?_⟩
      rwa [Function.update_of_ne (Nat.ne_of_lt hserial)]

/-- Freshness lasts. -/
theorem step (h : s.FreshSince path t) (hstep : Step s e s') : s'.FreshSince path t := by
  cases hstep with
  | hit idle kept => exact h.move _ nofun
  | miss idle kept => exact h.move _ nofun
  | fail missed load => exact h.move _ nofun
  | load missed load =>
    refine h.move _ fun q start readAt configs hcall => ?_
    cases hcall
    exact h.time
  | keep loaded => exact h.keep loaded
  | reload q =>
    refine ⟨Nat.lt_succ_of_lt h.time, h.calls, fun loaded hloaded => ?_⟩
    change (s.collector.reload q).kept? path = some loaded at hloaded
    rw [Collector.kept?_reload] at hloaded
    split at hloaded
    · cases hloaded
    · exact h.kept loaded hloaded
  | rewrite source => exact ⟨Nat.lt_succ_of_lt h.time, h.calls, h.kept⟩

theorem run {es : List Event} (h : s.FreshSince path t) (hrun : Run s es s') :
    s'.FreshSince path t := by
  induction hrun with
  | nil => exact h
  | cons hstep _ ih => exact ih (h.step hstep)

/-- A removal makes a path fresh if no caller is between reading and keeping. -/
theorem of_reload (h : ∀ x, ¬ (s.calls x).HasRead path) :
    (s.reload path).FreshSince path s.time where
  time := Nat.lt_succ_self _
  calls := by
    intro x q start readAt configs hx hq
    refine absurd ?_ (h x)
    change s.calls x = _ at hx
    rw [hx]
    exact hq
  kept := by
    intro loaded hloaded
    change (s.collector.reload path).kept? path = some loaded at hloaded
    rw [Collector.kept?_reload, if_pos rfl] at hloaded
    cases hloaded

end FreshSince

/-- Callers have read what they are about to keep. -/
def HasReadBefore (s : Shared) : Prop :=
  ∀ x q start readAt configs, s.calls x = .loaded q start readAt configs → readAt < s.time

namespace HasReadBefore

variable {s s' : Shared} {e : Event}

theorem move (h : s.HasReadBefore) (x : Nat) {call : Call}
    (hcall : ∀ q start readAt configs, call = .loaded q start readAt configs →
      readAt < s.time + 1) :
    (s.move x call).HasReadBefore := by
  intro y q start readAt configs hy
  rcases calls_move_eq_loaded hy with hy | rfl
  · exact Nat.lt_succ_of_lt (h y q start readAt configs hy)
  · exact hcall q start readAt configs rfl

theorem step (h : s.HasReadBefore) (hstep : Step s e s') : s'.HasReadBefore := by
  cases hstep with
  | hit idle kept => exact h.move _ nofun
  | miss idle kept => exact h.move _ nofun
  | fail missed load => exact h.move _ nofun
  | load missed load =>
    refine h.move _ fun q start readAt configs hcall => ?_
    cases hcall
    exact Nat.lt_succ_self _
  | @keep x q start readAt configs hloaded =>
    have hmove : (s.move x .idle).HasReadBefore := h.move x nofun
    exact hmove
  | reload q =>
    intro y q start readAt configs hy
    exact Nat.lt_succ_of_lt (h y q start readAt configs hy)
  | rewrite source =>
    intro y q start readAt configs hy
    exact Nat.lt_succ_of_lt (h y q start readAt configs hy)

theorem run {es : List Event} (h : s.HasReadBefore) (hrun : Run s es s') : s'.HasReadBefore := by
  induction hrun with
  | nil => exact h
  | cons hstep _ ih => exact ih (h.step hstep)

theorem start (source : Source) : (start source).HasReadBefore := nofun

end HasReadBefore

-- ════════════════════════════════════════════════════════════════════════
-- Removals
-- ════════════════════════════════════════════════════════════════════════

variable {s : Shared} {path : Path}

/-- If no caller is between reading and keeping, a removal is followed by fresh sets only. -/
theorem staysFresh_of_not_hasRead (h : ∀ x, ¬ (s.calls x).HasRead path) : s.StaysFresh path := by
  intro es s' o s'' loaded hrun hstep hpath _ hresult
  have hfresh : s''.FreshSince path s.time := ((FreshSince.of_reload h).run hrun).step hstep
  have hkept : s''.collector.kept? path = some loaded := by
    rw [← s''.collector.kept?_congr hpath]
    exact hstep.kept?_of_returned hresult
  exact (hfresh.kept loaded hkept).2

/-- A caller that has read before a removal can keep what it has read after it, and the next request
    gets that. -/
theorem stale_of_hasRead {x : Nat} {q : Path} {start readAt : Nat} {configs : List Configuration}
    (hx : s.calls x = .loaded q start readAt configs) (hq : q.components = path.components) :
    ∃ es s' s'', Run (s.reload path) es s' ∧
      Step s' (.returned ⟨path, s.time + 2, .ok ⟨s.collector.loads, configs⟩⟩) s'' ∧
      s''.origin s.collector.loads = readAt := by
  have hnone : (s.reload path).collector.kept? q = none := by
    change (s.collector.reload path).kept? q = none
    rw [Collector.kept?_reload, if_pos hq]
  have hkept : ((s.reload path).keep x q readAt configs).collector.kept? path =
      some ⟨s.collector.loads, configs⟩ := by
    change ((s.reload path).collector.keep q configs).2.kept? path = _
    rw [Collector.kept?_keep, if_pos hq.symm, Collector.keep_of_none hnone]
    rfl
  have hidle : ((s.reload path).keep x q readAt configs).calls x = .idle :=
    Function.update_self _ _ _
  -- The caller keeps its set, and then makes the next request itself.
  refine ⟨_, _, _, .cons (.keep hx) .nil, .hit hidle hkept, ?_⟩
  change (s.reload path).originAfter q readAt s.collector.loads = readAt
  simp only [originAfter, hnone]
  exact Function.update_self _ _ _

/-- A removal is followed by fresh sets only exactly if no caller is between reading the document
    and keeping what it has read at that moment. -/
theorem staysFresh_iff {source : Source} {es : List Event} (h : Run (start source) es s)
    (path : Path) : s.StaysFresh path ↔ ∀ x, ¬ (s.calls x).HasRead path := by
  refine ⟨fun hfresh x hx => ?_, staysFresh_of_not_hasRead⟩
  cases hcall : s.calls x with
  | idle => simp [hcall, Call.HasRead] at hx
  | missed q start => simp [hcall, Call.HasRead] at hx
  | loaded q start readAt configs =>
    rw [hcall] at hx
    obtain ⟨es, s', s'', hrun, hstep, horigin⟩ := stale_of_hasRead hcall hx
    have hafter : s.time < readAt := by
      rw [← horigin]
      exact hfresh es s' _ s'' _ hrun hstep rfl (Nat.lt_add_of_pos_right (by decide)) rfl
    have hbefore : readAt < s.time :=
      (HasReadBefore.start source).run h x q start readAt configs hcall
    exact Nat.lt_asymm hbefore hafter

/-- A request is over and has left its set: giving it up makes the next one read again. -/
theorem staysFresh_after_keep :
    let source := (FlatStore.empty.add ['a'] ['[', ']']).source
    let s := (((start source).move 0 (.missed ['a'] 0)).move 0 (.loaded ['a'] 0 1 [])).keep 0
      ['a'] 1 []
    s.collector.kept? ['a', '/'] = some ⟨0, []⟩ ∧ s.StaysFresh ['a', '/'] := by
  intro source s
  have hload : source.loadConfigs ['a'] = .ok [] := by cbv
  have hrun : Run (start source) [.silent, .silent, .returned ⟨['a'], 0, .ok ⟨0, []⟩⟩] s :=
    .cons (.miss rfl rfl) (.cons (.load rfl hload) (.cons (.keep rfl) .nil))
  refine ⟨by cbv, (staysFresh_iff hrun ['a', '/']).mpr fun x hx => ?_⟩
  have hidle : s.calls x = .idle := by
    by_cases h : x = 0 <;> simp [s, keep, move, start, h]
  rw [hidle] at hx
  exact hx

/-- A caller has read a document that is then replaced. Its set is given up, the caller keeps what
    it has read, and a request that starts afterwards gets the set of the old document. -/
theorem not_staysFresh :
    let old := (FlatStore.empty.add ['a'] ['[', ']']).source
    let new := FlatStore.empty.source
    let s := (((start old).move 0 (.missed ['a'] 0)).move 0 (.loaded ['a'] 0 1 [])).rewrite new
    Run (start old) [.silent, .silent, .silent] s ∧ ¬ s.StaysFresh ['a'] ∧
      (∃ es s' s'', Run (s.reload ['a']) es s' ∧
        Step s' (.returned ⟨['a'], s.time + 2, .ok ⟨0, []⟩⟩) s'') ∧
      new.loadConfigs ['a'] ≠ .ok [] := by
  intro old new s
  have hload : old.loadConfigs ['a'] = .ok [] := by cbv
  have hrun : Run (start old) [.silent, .silent, .silent] s :=
    .cons (.miss rfl rfl) (.cons (.load rfl hload) (.cons (.rewrite new) .nil))
  have hx : s.calls 0 = .loaded ['a'] 0 1 [] := rfl
  have hq : Path.components ['a'] = Path.components ['a'] := rfl
  obtain ⟨es, s', s'', hrun', hstep, horigin⟩ := stale_of_hasRead hx hq
  refine ⟨hrun, fun hfresh => ?_, ⟨es, s', s'', hrun', hstep⟩, fun hnew => ?_⟩
  · have hafter := hfresh es s' _ s'' _ hrun' hstep rfl (Nat.lt_add_of_pos_right (by decide)) rfl
    rw [horigin] at hafter
    exact absurd hafter (by decide)
  · cases hnew

end Shared

end Telemetry
