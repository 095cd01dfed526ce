import Telemetry.Clock
import Telemetry.Configuration.Document
import Telemetry.Metric
import Telemetry.Source.Basic

/-!
# Collection

The metrics of one configuration: for every matching file, every record in it and every measure, the
namespace is bound and then the expression evaluated, in the context of the record in front of the
default variables.

## Main definitions

- `CollectError` — the ways in which a collection fails
- `Collecting` — a part of a collection, which reads the clock
- `Measure.metric` — the metric of a measure for a record
- `Configuration.collect` — the metrics of a configuration

## Design notes

A collection gives all its metrics or none: the first failure on the way is its result. The clock is
read once for every metric, before its namespace is bound.
-/

namespace Telemetry

/-- The ways in which a collection fails. -/
inductive CollectError
  /-- The configuration cannot be used. -/
  | config (error : ConfigurationError)
  /-- The pattern of the files is none. -/
  | glob (error : Glob.SyntaxError)
  | read (path : Path) (error : ReadError)
  | format (path : Path) (error : FormatError)
  | bind (pattern : Text) (error : BindError)
  | eval (expression : Text) (error : EvalError)

/-- The wording of an error. -/
def CollectError.message : CollectError → String
  | config e => e.message
  | glob e => "invalid file pattern: " ++ e.message
  | read path e => "couldn't read " ++ String.ofList path ++ ": " ++ e.message
  | format path e => String.ofList path ++ ": " ++ e.message
  | bind p e => "namespace '" ++ String.ofList p ++ "': " ++ e.message
  | eval x e => "expression '" ++ String.ofList x ++ "': " ++ e.message

/-- A part of a collection: its metrics or its first failure, and the clock afterwards. -/
abbrev Collecting := Clock → Except CollectError (List Metric) × Clock

namespace Collecting

/-- The part that fails without a look at the clock. -/
def fail (e : CollectError) : Collecting :=
  fun clock => (.error e, clock)

/-- The part that makes one metric at the instant that the clock shows. -/
def single (metric : Timestamp → Except CollectError Metric) : Collecting :=
  fun clock => ((metric clock.now).map ([·]), clock.after 1)

/-- The metrics of the parts of all members of a list, one behind the other, or the first
    failure. -/
def concat {α : Type} (part : α → Collecting) : List α → Collecting
  | [], clock => (.ok [], clock)
  | a :: as, clock =>
    match part a clock with
    | (.error e, clock) => (.error e, clock)
    | (.ok ms, clock) =>
      match concat part as clock with
      | (.error e, clock) => (.error e, clock)
      | (.ok rest, clock) => (.ok (ms ++ rest), clock)

end Collecting

/-- The context of a record in front of default variables. -/
def Record.context (r defaults : Record) : Context :=
  Context.withFallback r.get? defaults.get?

/-- The metric of a measure for a file and a context. -/
def Measure.metric (m : Measure) (path : Path) (context : Context) (now : Timestamp)
    (tags : SortedMap Text Text) : Except CollectError Metric :=
  match m.target.bind path context with
  | .error e => .error (.bind m.target.display e)
  | .ok name =>
    match m.expression.evaluate context with
    | .error e => .error (.eval m.expression.source e)
    | .ok value => .ok ⟨name, value, now, tags⟩

namespace Configuration

/-- The metrics of a record of a file. -/
def metricsOfRecord (c : Configuration) (defaults : Record) (path : Path) (record : Record) :
    Collecting :=
  .concat
    (fun m => .single fun now => m.metric path (record.context defaults) now c.tags) c.measures

/-- The metrics of a file. -/
def metricsOfFile (c : Configuration) (source : Source) (defaults : Record) (path : Path) :
    Collecting :=
  match source.read path with
  | .error e => .fail (.read path e)
  | .ok contents =>
    match c.format.records contents with
    | .error e => .fail (.format path e)
    | .ok records => .concat (c.metricsOfRecord defaults path) records

/-- The collection of a configuration. -/
def collecting (c : Configuration) (source : Source) (defaults : Record) : Collecting :=
  match source.glob c.file with
  | .error e => .fail (.glob e)
  | .ok paths => .concat (c.metricsOfFile source defaults) paths

/-- The metrics of a configuration, or the first failure on the way to them. -/
def collect (c : Configuration) (source : Source) (defaults : Record) (clock : Clock) :
    Except CollectError (List Metric) :=
  (c.collecting source defaults clock).1

end Configuration

end Telemetry
