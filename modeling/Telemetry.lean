import Telemetry.Clock
import Telemetry.Collection
import Telemetry.Collector
import Telemetry.CommandLine.Arguments
import Telemetry.CommandLine.Outcome
import Telemetry.Configuration.Basic
import Telemetry.Configuration.Decoding
import Telemetry.Configuration.Document
import Telemetry.Configuration.Error
import Telemetry.Configuration.Format
import Telemetry.Decimal.Binary64
import Telemetry.Decimal.Layout
import Telemetry.Decimal.Reader
import Telemetry.Decimal.Shortest
import Telemetry.Environment
import Telemetry.Expression
import Telemetry.Expression.Evaluation
import Telemetry.Glob.Pattern
import Telemetry.Glob.Walk
import Telemetry.Json.Basic
import Telemetry.Json.Draft
import Telemetry.Json.Token
import Telemetry.Main
import Telemetry.Metric
import Telemetry.Namespace.Binding
import Telemetry.Namespace.Pattern
import Telemetry.Path
import Telemetry.Proofs.Collection.Announcement
import Telemetry.Proofs.Collection.Scopes
import Telemetry.Proofs.Collection.Traversal
import Telemetry.Proofs.Collector.Agreement
import Telemetry.Proofs.Collector.Cache
import Telemetry.Proofs.Collector.Coherence
import Telemetry.Proofs.Collector.Freshness
import Telemetry.Proofs.Collector.Interleaving
import Telemetry.Proofs.Collector.Refinement
import Telemetry.Proofs.Collector.Session
import Telemetry.Proofs.Expression.OperatorTree
import Telemetry.Proofs.Expression.StackMachine
import Telemetry.Proofs.Namespace.Directive
import Telemetry.Proofs.Namespace.Grammar
import Telemetry.Proofs.Namespace.Normalization
import Telemetry.Record.Basic
import Telemetry.Record.Format
import Telemetry.Record.KeyRow
import Telemetry.Record.KeyValue
import Telemetry.Record.Matching
import Telemetry.Record.Table
import Telemetry.Regex.Bracket
import Telemetry.Regex.ByteRange
import Telemetry.Regex.CharClass
import Telemetry.Regex.CharSet
import Telemetry.Regex.Escape
import Telemetry.Regex.Flags
import Telemetry.Regex.Footprint
import Telemetry.Regex.NamedClass
import Telemetry.Regex.Node
import Telemetry.Regex.Pattern
import Telemetry.Regex.Program
import Telemetry.Regex.Search
import Telemetry.Regex.Segmentation
import Telemetry.Regex.Syntax
import Telemetry.Regex.Unicode.Addition
import Telemetry.Regex.Unicode.Age
import Telemetry.Regex.Unicode.CaseFold
import Telemetry.Regex.Unicode.Category
import Telemetry.Regex.Unicode.Property
import Telemetry.Regex.Unicode.Script
import Telemetry.SortedMap
import Telemetry.Source.Basic
import Telemetry.Source.FlatStore
import Telemetry.Source.Tree
import Telemetry.Text.Basic
import Telemetry.Text.Blank
import Telemetry.Text.Utf8
import Telemetry.Timestamp
import Telemetry.Value
import Telemetry.Proofs.Decimal.Magnitude
import Telemetry.Proofs.Decimal.Spelling
import Telemetry.Proofs.Decimal.Doubles
import Telemetry.Proofs.Decimal.ReadBack
import Telemetry.Proofs.Decimal.Exponential
import Telemetry.Proofs.Value.Canonical
import Telemetry.Proofs.Json.Grammar
import Telemetry.Proofs.Json.Scanning
import Telemetry.Proofs.Json.Drafts
import Telemetry.Proofs.Json.Rendering
import Telemetry.Proofs.SortedMap
import Telemetry.Proofs.Metric.Lines
import Telemetry.Proofs.Configuration.Values
import Telemetry.Proofs.Text.ByteOrder
import Telemetry.Proofs.Configuration.Formats
import Telemetry.Proofs.Configuration.Documents
import Telemetry.Proofs.Collection.Defaults
import Telemetry.Proofs.Collection.Layers
import Telemetry.Proofs.Record.Columns
import Telemetry.Proofs.Record.Concatenation
import Telemetry.Proofs.Record.Identifiers
import Telemetry.Proofs.Record.PairedLines
import Telemetry.Proofs.Record.Paragraphs
import Telemetry.Proofs.Record.Segments
import Telemetry.Proofs.Path
import Telemetry.Proofs.Glob.Plain
import Telemetry.Proofs.Glob.Walk
import Telemetry.Proofs.Source.Tree
import Telemetry.Proofs.Source.Agreement
import Telemetry.Proofs.Basic
import Telemetry.Proofs.Record.BlankLines
import Telemetry.Proofs.Record.LineEndings
import Telemetry.Proofs.Expression.Spelling
import Telemetry.Proofs.Configuration.Decoding
import Telemetry.Proofs.Configuration.Loading
import Telemetry.Proofs.Namespace.Shape
import Telemetry.Proofs.Glob.Matching
import Telemetry.Proofs.Source.Store
import Telemetry.Proofs.Configuration.Ordering
import Telemetry.Proofs.CommandLine.Listing
import Telemetry.Proofs.Record.Assignments
import Telemetry.Proofs.Namespace.Positions
