import Telemetry.Json.Basic
import Telemetry.Namespace.Binding
import Telemetry.SortedMap
import Telemetry.Timestamp

/-!
# Metrics

A metric is a value under a namespace, with the instant at which it was made and the tags of its
configuration.

## Main definitions

- `Metric` — a metric
- `Metric.json`, `Metric.line` — a metric as a JSON object, and as a line of text
-/

namespace Telemetry

/-- A value under a namespace. -/
structure Metric where
  name : BoundNamespace
  value : Value
  timestamp : Timestamp
  tags : SortedMap Text Text

/-- A value in JSON. -/
def Value.json : Value → Json
  | number x => .number (.double x)
  | text t => .string t

/-- A metric as a JSON object. -/
def Metric.json (m : Metric) : Json :=
  .object
    [("namespace".toList, .string m.name.display),
     ("value".toList, m.value.json),
     ("timestamp".toList, .string m.timestamp.render),
     ("tags".toList, .object (m.tags.toList.map fun (k, v) => (k, .string v)))]

/-- A metric as a line of text. -/
def Metric.line (m : Metric) : Text :=
  m.json.render

end Telemetry
