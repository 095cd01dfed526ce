import Mathlib.Data.List.DropRight
import Telemetry.Collector
import Telemetry.Source.FlatStore

/-!
# Sessions

A session is a run of operations on one collector over a flat store, in a world that changes
between them. Beside it stands a collector that keeps nothing: it is told the history of the
session, and works with the document that the history puts in force.

## Main definitions

- `World` — the files, the environment and the clock that a collector meets
- `Operation`, `Answer` — what is asked in a session, and what comes back
- `Session.step`, `Session.run` — one operation of a session, and all of them
- `firstLoad?` — the contents that were loaded first since a document was last given up
- `Uncached.answer`, `Uncached.run` — the answers of the collector that keeps nothing
-/

namespace Telemetry

/-- What a collector finds around it. -/
structure World where
  store : FlatStore
  environment : List (Text × Text)
  processors : Nat
  clock : Clock

namespace World

/-- The files of a world as a source. -/
def source (w : World) : Source := w.store.source

/-- The default variables of a world. -/
def defaults (w : World) : Record := defaultVariables w.environment w.processors

/-- A world after a collection, which has read the clock. -/
def afterHarvest (w : World) : Except CollectError Harvest → World
  | .ok h => { w with clock := h.clock }
  | .error _ => w

/-- The contents of a document, if it can be read and decoded. -/
def loadable? (w : World) (path : Path) : Option Text :=
  match w.source.read path with
  | .error _ => none
  | .ok document =>
    match Configuration.load document with
    | .error _ => none
    | .ok _ => some document

end World

/-- The operations of a session. -/
inductive Operation
  /-- Adds a file, or replaces its contents. -/
  | write (path : Path) (contents : Text)
  | setEnvironment (environment : List (Text × Text)) (processors : Nat)
  | setClock (clock : Clock)
  | reload (path : Path)
  | configs (path : Path)
  | discover (path : Path)
  | collect (path : Path)

namespace Operation

/-- The path of the document that an operation works with. -/
def document? : Operation → Option Path
  | configs path | discover path | collect path => some path
  | _ => none

/-- Whether an operation gives up the set of a path, in whatever spelling. -/
def reloads (path : Path) : Operation → Bool
  | reload q => q.components = path.components
  | _ => false

end Operation

/-- The answer to an operation, in which a loaded set is shown as a `σ`. -/
inductive Answer (σ : Type)
  | done
  | set (result : Except CollectError σ)
  | namespaces (result : Except CollectError (List Namespace))
  | harvest (result : Except CollectError Harvest)

namespace Answer

/-- An answer with its set shown in another way. -/
def map {σ τ : Type} (f : σ → τ) : Answer σ → Answer τ
  | done => done
  | set r => set (r.map f)
  | namespaces r => namespaces r
  | harvest r => harvest r

/-- Whether an answer is an error. -/
def failed {σ : Type} : Answer σ → Bool
  | set (.error _) | namespaces (.error _) | harvest (.error _) => true
  | _ => false

end Answer

-- ════════════════════════════════════════════════════════════════════════
-- The collector with its cache
-- ════════════════════════════════════════════════════════════════════════

/-- A collector in its world. -/
structure Session where
  world : World
  collector : Collector

namespace Session

/-- A session in which nothing has been loaded. -/
def start (w : World) : Session := ⟨w, .empty⟩

/-- The answer to an operation, and the session afterwards. -/
def step (s : Session) : Operation → Answer LoadedSet × Session
  | .write path contents =>
    (.done, { s with world := { s.world with store := s.world.store.add path contents } })
  | .setEnvironment environment processors =>
    (.done, { s with world := { s.world with environment, processors } })
  | .setClock clock => (.done, { s with world := { s.world with clock } })
  | .reload path => (.done, { s with collector := s.collector.reload path })
  | .configs path =>
    let (r, collector) := s.collector.configs s.world.source path
    (.set r, { s with collector })
  | .discover path =>
    let (r, collector) := s.collector.discover s.world.source path
    (.namespaces r, { s with collector })
  | .collect path =>
    let (r, collector) :=
      s.collector.collect s.world.source s.world.defaults s.world.clock path
    (.harvest r, ⟨s.world.afterHarvest r, collector⟩)

/-- The answers to a list of operations, and the session afterwards. -/
def run (s : Session) : List Operation → List (Answer LoadedSet) × Session
  | [] => ([], s)
  | op :: ops =>
    let (answers, s') := run (s.step op).2 ops
    ((s.step op).1 :: answers, s')

end Session

-- ════════════════════════════════════════════════════════════════════════
-- The collector that keeps nothing
-- ════════════════════════════════════════════════════════════════════════

/-- A moment of a session: an operation and the world that it met. -/
structure Moment where
  world : World
  operation : Operation

/-- The contents that an operation found for the document at a path, if it needed the document and
    could load it. -/
def Moment.load? (path : Path) (m : Moment) : Option Text :=
  match m.operation.document? with
  | none => none
  | some q => if q.components = path.components then m.world.loadable? q else none

/-- The moments of a history since the document at a path was last given up. -/
def sinceReload (history : List Moment) (path : Path) : List Moment :=
  history.rtakeWhile fun m => !m.operation.reloads path

/-- The contents that were loaded first since the document at a path was last given up. -/
def firstLoad? (history : List Moment) (path : Path) : Option Text :=
  (sinceReload history path).findSome? (Moment.load? path)

namespace Uncached

/-- The document at a path that a history puts in force: the contents that were loaded first, or
    those of the present. -/
def document (history : List Moment) (w : World) (path : Path) : Except ReadError Text :=
  match firstLoad? history path with
  | some contents => .ok contents
  | none => w.source.read path

/-- The configurations of the document that is in force. -/
def configs (history : List Moment) (w : World) (path : Path) :
    Except CollectError (List Configuration) :=
  { w.source with read := fun _ => document history w path }.loadConfigs path

/-- The answer to an operation in a world, and the world afterwards. Only the document comes from
    the history; all other files are those of the present. -/
def answer (history : List Moment) (w : World) :
    Operation → Answer (List Configuration) × World
  | .write path contents => (.done, { w with store := w.store.add path contents })
  | .setEnvironment environment processors => (.done, { w with environment, processors })
  | .setClock clock => (.done, { w with clock })
  | .reload _ => (.done, w)
  | .configs path => (.set (configs history w path), w)
  | .discover path =>
    (.namespaces ((configs history w path).map (·.flatMap Configuration.namespaces)), w)
  | .collect path =>
    let r := (configs history w path).map (Harvest.gather w.source w.defaults · w.clock)
    (.harvest r, w.afterHarvest r)

/-- The answers to a list of operations. -/
def run (history : List Moment) (w : World) :
    List Operation → List (Answer (List Configuration))
  | [] => []
  | op :: ops =>
    (answer history w op).1 :: run (history ++ [⟨w, op⟩]) (answer history w op).2 ops

end Uncached

end Telemetry
