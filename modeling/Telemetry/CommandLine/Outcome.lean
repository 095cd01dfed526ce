import Telemetry.Collector
import Telemetry.CommandLine.Arguments

/-!
# Outcomes of commands

What a command prints, and the code it ends with.

## Main definitions

- `Outcome` — printed text and an exit code
- `Command.run` — the outcome of a command

## Design notes

A document that cannot be loaded makes a command fail. A configuration in it that fails is reported
as an error, and the command succeeds with the metrics of the others.
-/

namespace Telemetry

/-- What a command prints, on the two channels, and the code it ends with. -/
structure Outcome where
  exitCode : Nat
  output : Text
  errors : Text

namespace Outcome

/-- The exit code of a command that succeeds. -/
def success : Nat := 0

/-- The exit code of a command that fails. -/
def failure : Nat := 1

/-- The exit code of a command line that asks for nothing. -/
def usage : Nat := 2

/-- Lines of text, each with its end. -/
def printLines (ls : List Text) : Text :=
  ls.flatMap (· ++ ['\n'])

/-- The outcome of a command whose document cannot be loaded. -/
def unloadable (config : Path) (e : CollectError) : Outcome where
  exitCode := failure
  output := []
  errors := printLines
    ["Error: couldn't load ".toList ++ config, [], "Caused by:".toList,
      "    ".toList ++ e.message.toList]

end Outcome

/-- The report of a configuration that failed. -/
def FailedConfiguration.report (f : FailedConfiguration) : Text :=
  "ERROR collection failed file=".toList ++ f.file ++ " error=".toList ++ f.error.message.toList

/-- The outcome of a command for the document at a path. -/
def Command.run (command : Command) (config : Path) (source : Source) (defaults : Record)
    (clock : Clock) : Outcome :=
  match command with
  | discover =>
    match (Collector.empty.discover source config).1 with
    | .error e => .unloadable config e
    | .ok namespaces => ⟨Outcome.success, Outcome.printLines (namespaces.map Namespace.display), []⟩
  | collect =>
    match (Collector.empty.collect source defaults clock config).1 with
    | .error e => .unloadable config e
    | .ok harvest =>
      ⟨Outcome.success, Outcome.printLines (harvest.metrics.map Metric.line),
        Outcome.printLines (harvest.failures.map FailedConfiguration.report)⟩

end Telemetry
