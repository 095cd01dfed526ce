import Telemetry.Configuration.Error
import Telemetry.Expression
import Telemetry.Record.Format

/-!
# Configurations

A configuration names the files it is about, the format of their records, and namespace patterns
with expressions for the metrics to make of them.

## Main definitions

- `RawConfiguration` — a configuration as it is written
- `Measure`, `Configuration` — a configuration with parsed patterns and expressions
- `Configuration.ofRaw` — the configuration of a raw one
- `Configuration.namespaces` — the namespace patterns of a configuration

## Design notes

Measures are kept in the order of the texts of their namespace patterns, so the first pattern at
fault is the least one, wherever it is written.
-/

namespace Telemetry

/-- A file configuration as it is written. -/
structure RawConfiguration where
  file : Text
  metrics : SortedMap Text Text
  tags : SortedMap Text Text
  format : Format

/-- A namespace pattern and the expression for the value of its metric. -/
structure Measure where
  target : Namespace
  expression : Expression
  deriving DecidableEq

/-- Which files to read, how to split them into records, and which metrics to make of each
    record. -/
structure Configuration where
  /-- The pattern of the paths of the files. -/
  file : Text
  /-- The measures in the order of the texts of their namespace patterns. -/
  measures : List Measure
  tags : SortedMap Text Text
  format : Format

/-- The measures of namespace patterns with their expressions, or the error of the first pattern
    at fault. -/
def Measure.ofEntries (file : Text) : List (Text × Text) → Except ConfigurationError (List Measure)
  | [] => .ok []
  | (pattern, expression) :: entries =>
    match Namespace.parse pattern with
    | .error e => .error (.pattern file e)
    | .ok target => (ofEntries file entries).map (⟨target, Expression.parse expression⟩ :: ·)

namespace Configuration

/-- The configuration of a raw one. -/
def ofRaw (raw : RawConfiguration) : Except ConfigurationError Configuration :=
  (Measure.ofEntries raw.file raw.metrics.toList).map fun measures =>
    ⟨raw.file, measures, raw.tags, raw.format⟩

/-- The configurations of raw ones, or the error of the first at fault. -/
def ofRawAll : List RawConfiguration → Except ConfigurationError (List Configuration)
  | [] => .ok []
  | raw :: raws =>
    match ofRaw raw with
    | .error e => .error e
    | .ok config => (ofRawAll raws).map (config :: ·)

/-- The namespace patterns of a configuration. -/
def namespaces (c : Configuration) : List Namespace :=
  c.measures.map Measure.target

end Configuration

end Telemetry
