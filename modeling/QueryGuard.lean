import QueryGuard.Assessment
import QueryGuard.CommandLine.Arguments
import QueryGuard.CommandLine.Basic
import QueryGuard.CommandLine.File
import QueryGuard.CommandLine.Help
import QueryGuard.CommandLine.Word
import QueryGuard.Journal
import QueryGuard.Json.Basic
import QueryGuard.Json.Decoder
import QueryGuard.Json.Encoder
import QueryGuard.Json.Truth
import QueryGuard.Log.Level
import QueryGuard.Log.Record
import QueryGuard.Log.Root
import QueryGuard.Log.Template
import QueryGuard.Log.Value
import QueryGuard.Main
import QueryGuard.Metadata.Backend
import QueryGuard.Metadata.Cache
import QueryGuard.Metadata.Counts
import QueryGuard.Metadata.Fetch
import QueryGuard.Metadata.Snapshot
import QueryGuard.Metadata.Tsdb
import QueryGuard.Metrics.Registry
import QueryGuard.Metrics.Samples
import QueryGuard.Number.Double
import QueryGuard.Number.Numeral
import QueryGuard.Number.Places
import QueryGuard.Number.Rounding
import QueryGuard.Number.Shortest
import QueryGuard.Policy.Basic
import QueryGuard.Policy.RuleList
import QueryGuard.Proofs.Assessment.Blame
import QueryGuard.Proofs.Assessment.Check
import QueryGuard.Proofs.Assessment.Stage
import QueryGuard.Proofs.Query.Selector
import QueryGuard.Proofs.Query.Walk
import QueryGuard.Proofs.Text.Ascending
import QueryGuard.Proofs.Validation.FailClosed
import QueryGuard.Proofs.Validation.Nesting
import QueryGuard.Proofs.Validation.Priority
import QueryGuard.Proofs.Validation.Run
import QueryGuard.Proofs.Validation.Soundness
import QueryGuard.Query.Matcher
import QueryGuard.Query.Node
import QueryGuard.Query.Reading
import QueryGuard.Query.Selector
import QueryGuard.Query.Tree
import QueryGuard.Service.Basic
import QueryGuard.Service.Exchange
import QueryGuard.Service.Form
import QueryGuard.Settings.Basic
import QueryGuard.Settings.Coercion
import QueryGuard.Text.Ascending
import QueryGuard.Text.Blank
import QueryGuard.Text.Case
import QueryGuard.Text.CaseTable
import QueryGuard.Text.DecimalDigit
import QueryGuard.Text.Printable
import QueryGuard.Text.Quoted
import QueryGuard.Text.Span
import QueryGuard.Text.Split
import QueryGuard.Time.Calendar
import QueryGuard.Time.DateTime
import QueryGuard.Time.Duration
import QueryGuard.Time.Error
import QueryGuard.Time.Iso
import QueryGuard.Time.Range
import QueryGuard.Time.Timestamp
import QueryGuard.Validation
import QueryGuard.Verdict.Basic
import QueryGuard.Verdict.Finding
import QueryGuard.Verdict.Rule
import QueryGuard.Proofs.Validation.Monotone
import QueryGuard.Proofs.Validation.Relevance
import QueryGuard.Proofs.Metadata.Expiry
import QueryGuard.Proofs.Validation.Alternatives
import QueryGuard.Proofs.Metadata.Interleaving
import QueryGuard.Proofs.Metadata.Nonnegative
import QueryGuard.Proofs.Settings.Valid
import QueryGuard.Proofs.Json.Scalar
import QueryGuard.Proofs.Service.Form
import QueryGuard.Proofs.Service.Validate
import QueryGuard.Proofs.Json.RoundTrip
import QueryGuard.Proofs.CommandLine.Agreement
import QueryGuard.Proofs.CommandLine.Arguments
import QueryGuard.Proofs.Metrics.Count
import QueryGuard.Proofs.Number.Overflow
import QueryGuard.Proofs.Service.Handle
import QueryGuard.Proofs.Service.Tally
import QueryGuard.Proofs.Time.Duration
import QueryGuard.Proofs.Time.Timestamp
import QueryGuard.Proofs.Time.Range
import QueryGuard.Proofs.Metadata.Failures
import QueryGuard.Proofs.Service.RequestId
import QueryGuard.Proofs.Basic
import QueryGuard.Proofs.Query.Exposure
import QueryGuard.Proofs.Json.Distinct
import QueryGuard.Proofs.Service.Complaint
import QueryGuard.Proofs.Text.DecimalDigit
import QueryGuard.Proofs.Number.Exact
import QueryGuard.Proofs.Time.Spelling
import QueryGuard.Proofs.Time.Milliseconds
import QueryGuard.Proofs.Time.Exact
import QueryGuard.Proofs.Time.Calendar
import QueryGuard.Proofs.Time.Iso
import QueryGuard.Proofs.Time.Encoding
import QueryGuard.Proofs.Time.Grammar
import QueryGuard.Proofs.Time.Pattern
import QueryGuard.Proofs.Text.Blank
import QueryGuard.Proofs.Text.Case
import QueryGuard.Proofs.Time.Relative
import QueryGuard.Proofs.Text.Split
import QueryGuard.Proofs.Policy.RuleNames
import QueryGuard.Proofs.Metadata.SnapshotFile
import QueryGuard.Proofs.Metadata.Counts
import QueryGuard.Proofs.CommandLine.Output
import QueryGuard.Proofs.Log.Line
import QueryGuard.Proofs.Metadata.Formats
import QueryGuard.Proofs.Query.Rearranged
import QueryGuard.Proofs.Validation.Rearranged
import QueryGuard.Proofs.Query.InStep
import QueryGuard.Proofs.Query.Place
import QueryGuard.Proofs.Query.Document
import QueryGuard.Proofs.Query.Traversal
