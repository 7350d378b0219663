import InfraEvidence.Block.Basic
import InfraEvidence.Block.Kind
import InfraEvidence.Block.Opening
import InfraEvidence.Block.Scan
import InfraEvidence.Block.Setting
import InfraEvidence.Calendar
import InfraEvidence.CommandLine.Grammar
import InfraEvidence.CommandLine.Invocation
import InfraEvidence.Control.AllowList
import InfraEvidence.Control.Table
import InfraEvidence.Fault
import InfraEvidence.Files.Path
import InfraEvidence.Files.Tree
import InfraEvidence.Files.Walk
import InfraEvidence.Glob
import InfraEvidence.Main
import InfraEvidence.Mode
import InfraEvidence.Number.Fixed
import InfraEvidence.Number.Read
import InfraEvidence.Order.Dict
import InfraEvidence.Order.NameSet
import InfraEvidence.Posture.Analysis
import InfraEvidence.Posture.Gap
import InfraEvidence.Posture.Score
import InfraEvidence.Program
import InfraEvidence.Proofs.Block.Record
import InfraEvidence.Proofs.Block.Value
import InfraEvidence.Proofs.Scan.Balance
import InfraEvidence.Proofs.Scan.Intervals
import InfraEvidence.Proofs.Scan.Layout
import InfraEvidence.Proofs.Scan.Run
import InfraEvidence.Reference
import InfraEvidence.Report.Csv
import InfraEvidence.Report.Format
import InfraEvidence.Report.Json
import InfraEvidence.Report.JsonValue
import InfraEvidence.Report.Markdown
import InfraEvidence.Report.Order
import InfraEvidence.Report.PostureDocument
import InfraEvidence.Report.Reporter
import InfraEvidence.Report.Table
import InfraEvidence.Report.Terminal
import InfraEvidence.Selection
import InfraEvidence.Settings.Basic
import InfraEvidence.Settings.Expansion
import InfraEvidence.Settings.Read
import InfraEvidence.Survey
import InfraEvidence.Text.Blank
import InfraEvidence.Text.CaseTable
import InfraEvidence.Text.Lines
import InfraEvidence.Text.Lowercase
import InfraEvidence.Text.Search
import InfraEvidence.Text.Utf8
import InfraEvidence.Text.Width
import InfraEvidence.Text.WidthTable
import InfraEvidence.Text.Word
import InfraEvidence.Text.WordTable
import InfraEvidence.Yaml.Cursor
import InfraEvidence.Yaml.Lexer
import InfraEvidence.Yaml.Node
import InfraEvidence.Yaml.Scalar
import InfraEvidence.Yaml.Token
import InfraEvidence.Yaml.Value
import InfraEvidence.Proofs.Scan.Narrowing
import InfraEvidence.Proofs.Scan.Recovery
import InfraEvidence.Proofs.Text.LineEnds
import InfraEvidence.Proofs.Block.Quoted
import InfraEvidence.Proofs.Scan.Written
import InfraEvidence.Proofs.Scan.Append
import InfraEvidence.Proofs.Scan.RawText
import InfraEvidence.Proofs.Reference.Division
import InfraEvidence.Proofs.Reference.Sanitized
import InfraEvidence.Proofs.Reference.Spelled
import InfraEvidence.Proofs.Collection.Coherent
import InfraEvidence.Proofs.Reference.Subcollection
import InfraEvidence.Proofs.Selection.Keep
import InfraEvidence.Proofs.Survey.Found
import InfraEvidence.Proofs.Survey.Resolved
import InfraEvidence.Proofs.Scan.Nested
import InfraEvidence.Proofs.Block.Identifier
import InfraEvidence.Proofs.Text.Lowered
import InfraEvidence.Proofs.Posture.Findings
import InfraEvidence.Proofs.Scan.Assigned
import InfraEvidence.Proofs.Posture.Ranges
import InfraEvidence.Proofs.Posture.Issues
import InfraEvidence.Proofs.Files.Place
import InfraEvidence.Proofs.Files.Matcher
import InfraEvidence.Proofs.Files.Walk
import InfraEvidence.Proofs.Files.Overlap
import InfraEvidence.Proofs.Survey.Once
import InfraEvidence.Proofs.Files.Erased
import InfraEvidence.Proofs.Files.Remaining
import InfraEvidence.Proofs.Survey.Unread
import InfraEvidence.Proofs.Survey.Isolated
import InfraEvidence.Proofs.Survey.Ordered
import InfraEvidence.Proofs.Order.Stable
import InfraEvidence.Proofs.Report.Order
import InfraEvidence.Proofs.Files.Plain
import InfraEvidence.Proofs.Survey.Roots
import InfraEvidence.Proofs.Json.Token
import InfraEvidence.Proofs.Json.Value
import InfraEvidence.Proofs.Json.Layout
import InfraEvidence.Proofs.Report.Groups
import InfraEvidence.Proofs.Report.Decoded
import InfraEvidence.Proofs.Report.Records
import InfraEvidence.Proofs.Report.Listed
import InfraEvidence.Proofs.Settings.Requested
import InfraEvidence.Proofs.Settings.Valid
import InfraEvidence.Proofs.Survey.Mapped
import InfraEvidence.Proofs.Settings.Pieces
import InfraEvidence.Proofs.Settings.Rounds
import InfraEvidence.Proofs.Settings.Expanded
import InfraEvidence.Proofs.Posture.Batches
import InfraEvidence.Proofs.Posture.Scores
import InfraEvidence.Proofs.Posture.Gaps
import InfraEvidence.Proofs.Files.Written
import InfraEvidence.Proofs.Program.Effects
import InfraEvidence.Proofs.Block.Opening
import InfraEvidence.Proofs.Scan.OneLine
import InfraEvidence.Proofs.Scan.Silent
import InfraEvidence.Proofs.Scan.Provenance
import InfraEvidence.Proofs.Scan.Notes
import InfraEvidence.Proofs.Block.Labels
import InfraEvidence.Proofs.Text.Replaced
import InfraEvidence.Proofs.Text.Utf8
import InfraEvidence.Proofs.Text.Lined
import InfraEvidence.Proofs.Scan.Encoding
import InfraEvidence.Proofs.Report.Ties
import InfraEvidence.Proofs.Text.Respelled
import InfraEvidence.Proofs.Selection.Terms
import InfraEvidence.Proofs.Selection.Combined
import InfraEvidence.Proofs.Selection.Topics
import InfraEvidence.Proofs.Number.Written
import InfraEvidence.Proofs.Report.PostureRecords
import InfraEvidence.Proofs.Report.Drawn
import InfraEvidence.Proofs.Report.Uncoloured
import InfraEvidence.Proofs.Text.Slice
import InfraEvidence.Proofs.Block.Cleaned
