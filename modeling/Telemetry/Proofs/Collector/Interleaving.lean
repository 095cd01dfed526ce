import Mathlib.Logic.Function.Basic
import Telemetry.Proofs.Collector.Cache

/-!
# Interleavings

A collector that any number of callers share. A request for the set of a path is three atomic steps,
between which other callers, removals and changes of the files may come: the look-up, the reading
and decoding of the document, and the keeping of the set if none is kept by then.

## Main definitions

- `Call` — how far a caller has come
- `Shared` — a shared collector with its callers and files
- `Event`, `Shared.Step`, `Shared.Run` — what can be seen of a step, one step, and a run

## Main statements

- `Shared.run_alone` — the steps of a request that nobody disturbs are the request itself

## Design notes

A state remembers how many steps were taken, and for each set when its contents were read. No step
depends on either.
-/

namespace Telemetry

/-- How far a caller has come with a request for the set of a path. -/
inductive Call
  | idle
  /-- The look-up, which was the start of the request, has found nothing. -/
  | missed (path : Path) (start : Nat)
  /-- The document has been read and decoded. -/
  | loaded (path : Path) (start readAt : Nat) (configs : List Configuration)

/-- What a request returns. -/
structure Reply where
  path : Path
  start : Nat
  result : Except CollectError LoadedSet

/-- What can be seen of a step. -/
inductive Event
  | silent
  | returned (reply : Reply)
  | reloaded (path : Path)

/-- A collector that callers share, and the files they find. -/
structure Shared where
  source : Source
  collector : Collector
  calls : Nat → Call
  /-- How many steps have been taken. -/
  time : Nat
  /-- When the contents of a set were read, by its serial number. -/
  origin : Nat → Nat

namespace Shared

/-- The state before any request. -/
def start (source : Source) : Shared := ⟨source, .empty, fun _ => .idle, 0, fun _ => 0⟩

/-- A step by which a caller comes to some point of a request. -/
def move (s : Shared) (x : Nat) (call : Call) : Shared :=
  { s with calls := Function.update s.calls x call, time := s.time + 1 }

/-- A step that gives up the set of a path. -/
def reload (s : Shared) (path : Path) : Shared :=
  { s with collector := s.collector.reload path, time := s.time + 1 }

/-- A step by which the files change. -/
def rewrite (s : Shared) (source : Source) : Shared :=
  { s with source, time := s.time + 1 }

/-- When the contents of sets were read, after configurations have been kept for a path if none
    were. -/
def originAfter (s : Shared) (path : Path) (readAt : Nat) : Nat → Nat :=
  match s.collector.kept? path with
  | some _ => s.origin
  | none => Function.update s.origin s.collector.loads readAt

/-- A step by which a caller keeps what it has loaded, if nothing is kept by now. -/
def keep (s : Shared) (x : Nat) (path : Path) (readAt : Nat) (configs : List Configuration) :
    Shared :=
  { s.move x .idle with
    collector := (s.collector.keep path configs).2
    origin := s.originAfter path readAt }

/-- One atomic step of a caller, or of the surroundings. -/
inductive Step : Shared → Event → Shared → Prop
  | hit {s : Shared} {x : Nat} {path : Path} {loaded : LoadedSet} (idle : s.calls x = .idle)
      (kept : s.collector.kept? path = some loaded) :
      Step s (.returned ⟨path, s.time, .ok loaded⟩) (s.move x .idle)
  | miss {s : Shared} {x : Nat} {path : Path} (idle : s.calls x = .idle)
      (kept : s.collector.kept? path = none) :
      Step s .silent (s.move x (.missed path s.time))
  | fail {s : Shared} {x : Nat} {path : Path} {start : Nat} {e : CollectError}
      (missed : s.calls x = .missed path start) (load : s.source.loadConfigs path = .error e) :
      Step s (.returned ⟨path, start, .error e⟩) (s.move x .idle)
  | load {s : Shared} {x : Nat} {path : Path} {start : Nat} {configs : List Configuration}
      (missed : s.calls x = .missed path start) (load : s.source.loadConfigs path = .ok configs) :
      Step s .silent (s.move x (.loaded path start s.time configs))
  | keep {s : Shared} {x : Nat} {path : Path} {start readAt : Nat} {configs : List Configuration}
      (loaded : s.calls x = .loaded path start readAt configs) :
      Step s (.returned ⟨path, start, .ok (s.collector.keep path configs).1⟩)
        (s.keep x path readAt configs)
  | reload {s : Shared} (path : Path) : Step s (.reloaded path) (s.reload path)
  | rewrite {s : Shared} (source : Source) : Step s .silent (s.rewrite source)

/-- Steps one after the other. -/
inductive Run : Shared → List Event → Shared → Prop
  | nil {s : Shared} : Run s [] s
  | cons {s s' s'' : Shared} {e : Event} {es : List Event} (step : Step s e s')
      (rest : Run s' es s'') : Run s (e :: es) s''

/-- The steps of a request that nobody disturbs are the request itself. -/
theorem run_alone {s : Shared} {x : Nat} (idle : s.calls x = .idle) (path : Path) :
    ∃ es s', Run s es s' ∧ s'.collector = (s.collector.configs s.source path).2 ∧
      es.getLast? =
        some (.returned ⟨path, s.time, (s.collector.configs s.source path).1⟩) := by
  rcases s.collector.configs_cases s.source path with
    ⟨loaded, hkept, h⟩ | ⟨e, hkept, hload, h⟩ | ⟨cs, hkept, hload, h⟩
  · exact ⟨_, _, .cons (.hit idle hkept) .nil, by rw [h]; rfl, by rw [h]; rfl⟩
  · have hmissed : (s.move x (.missed path s.time)).calls x = .missed path s.time := by
      simp [move]
    exact ⟨_, _, .cons (.miss idle hkept) (.cons (.fail hmissed hload) .nil), by rw [h]; rfl,
      by rw [h]; rfl⟩
  · have hmissed : (s.move x (.missed path s.time)).calls x = .missed path s.time := by
      simp [move]
    have hloaded : ((s.move x (.missed path s.time)).move x
        (.loaded path s.time (s.time + 1) cs)).calls x =
        .loaded path s.time (s.time + 1) cs := by
      simp [move]
    refine ⟨_, _, .cons (.miss idle hkept) (.cons (.load hmissed hload)
      (.cons (.keep hloaded) .nil)), by rw [h]; rfl, ?_⟩
    rw [h]
    change some (Event.returned ⟨path, s.time, .ok (s.collector.keep path cs).1⟩) = _
    rw [Collector.keep_of_none hkept]

end Shared

end Telemetry
