import AuditDesk.CommandLine.Argument
import AuditDesk.CommandLine.Command
import AuditDesk.CommandLine.Failure
import AuditDesk.CommandLine.Grammar
import AuditDesk.CommandLine.Launch
import AuditDesk.CommandLine.Output
import AuditDesk.CommandLine.Reading
import AuditDesk.CommandLine.Run
import AuditDesk.CommandLine.VariableFile
import AuditDesk.CommandLine.Workspace
import AuditDesk.Comparison
import AuditDesk.Config
import AuditDesk.Csv
import AuditDesk.Decimal.Shortest
import AuditDesk.Desk.Actions
import AuditDesk.Desk.Basic
import AuditDesk.Desk.Command
import AuditDesk.Desk.Dialog
import AuditDesk.Desk.Key
import AuditDesk.Desk.Keystroke
import AuditDesk.Desk.Press
import AuditDesk.Desk.Session
import AuditDesk.Desk.Sitting
import AuditDesk.Desk.View
import AuditDesk.Desk.Worker
import AuditDesk.Export
import AuditDesk.Files
import AuditDesk.Guidance
import AuditDesk.History
import AuditDesk.Json.Decoder
import AuditDesk.Json.Failure
import AuditDesk.Json.Numeral
import AuditDesk.Json.Printer
import AuditDesk.Json.Quoted
import AuditDesk.Json.Reader
import AuditDesk.Json.Skip
import AuditDesk.Json.Value
import AuditDesk.Json.ValueReader
import AuditDesk.Language
import AuditDesk.Main
import AuditDesk.Notices
import AuditDesk.Proofs.CommandLine.Comparing
import AuditDesk.Proofs.Comparison.Matrix
import AuditDesk.Proofs.Comparison.Selection
import AuditDesk.Proofs.Comparison.Table
import AuditDesk.Proofs.Csv.Fields
import AuditDesk.Proofs.Csv.Records
import AuditDesk.Proofs.Desk.Accounting
import AuditDesk.Proofs.Desk.Cancellation
import AuditDesk.Proofs.Desk.Compared
import AuditDesk.Proofs.Desk.Coverage
import AuditDesk.Proofs.Desk.Cursors
import AuditDesk.Proofs.Desk.Dialogs
import AuditDesk.Proofs.Desk.Discipline
import AuditDesk.Proofs.Desk.Display
import AuditDesk.Proofs.Desk.Errand
import AuditDesk.Proofs.Desk.Failing
import AuditDesk.Proofs.Desk.HistoryOrder
import AuditDesk.Proofs.Desk.Ledger
import AuditDesk.Proofs.Desk.Matter
import AuditDesk.Proofs.Desk.Notified
import AuditDesk.Proofs.Desk.OnCourse
import AuditDesk.Proofs.Desk.Overlays
import AuditDesk.Proofs.Desk.Run
import AuditDesk.Proofs.Desk.Sitting
import AuditDesk.Proofs.Desk.Told
import AuditDesk.Proofs.Desk.Turn
import AuditDesk.Proofs.Guidance.Named
import AuditDesk.Proofs.Json.Agreement
import AuditDesk.Proofs.Json.Endings
import AuditDesk.Proofs.Json.Folding
import AuditDesk.Proofs.Json.Forms
import AuditDesk.Proofs.Json.Gaps
import AuditDesk.Proofs.Json.Layout
import AuditDesk.Proofs.Json.Locality
import AuditDesk.Proofs.Json.Meaning
import AuditDesk.Proofs.Json.Numbers
import AuditDesk.Proofs.Json.Numerals
import AuditDesk.Proofs.Json.Passing
import AuditDesk.Proofs.Json.Printed
import AuditDesk.Proofs.Json.Readable
import AuditDesk.Proofs.Json.Reading
import AuditDesk.Proofs.Json.Recovery
import AuditDesk.Proofs.Json.Settling
import AuditDesk.Proofs.Json.Skimmed
import AuditDesk.Proofs.Json.Spelling
import AuditDesk.Proofs.Json.Streaming
import AuditDesk.Proofs.Json.Strings
import AuditDesk.Proofs.Json.Yields
import AuditDesk.Proofs.Notices.Retention
import AuditDesk.Proofs.Screen.Scrolling
import AuditDesk.Proofs.Service.Below
import AuditDesk.Proofs.Service.Course
import AuditDesk.Proofs.Service.Crowd
import AuditDesk.Proofs.Service.Interruption
import AuditDesk.Proofs.Service.Lifecycle
import AuditDesk.Proofs.Service.Outcomes
import AuditDesk.Proofs.Service.TaskAddress
import AuditDesk.Proofs.Service.Tasks
import AuditDesk.Proofs.Service.Watch
import AuditDesk.Proofs.Settings.Acceptance
import AuditDesk.Proofs.Settings.Spelled
import AuditDesk.Proofs.Setup.Authorized
import AuditDesk.Proofs.Snippets.Fallback
import AuditDesk.Proofs.Snippets.Refinement
import AuditDesk.Proofs.Snippets.Sharing
import AuditDesk.Proofs.Storage.Reopened
import AuditDesk.Proofs.Text.Encoded
import AuditDesk.Proofs.Text.Escapes
import AuditDesk.Proofs.Time.Agreeing
import AuditDesk.Proofs.Time.Counting
import AuditDesk.Proofs.Time.Reread
import AuditDesk.Proofs.Time.Spellings
import AuditDesk.Proofs.Time.Written
import AuditDesk.Proofs.Wire.Answers
import AuditDesk.Proofs.Wire.Decoding
import AuditDesk.Proofs.Wire.Places
import AuditDesk.Proofs.Wire.Replaced
import AuditDesk.Proofs.Wire.Reports
import AuditDesk.Proofs.Wire.RoundTrip
import AuditDesk.Proofs.Wire.Snippets
import AuditDesk.Proofs.Wire.Times
import AuditDesk.Report
import AuditDesk.Screen.Canvas
import AuditDesk.Screen.Frame
import AuditDesk.Screen.Line
import AuditDesk.Screen.Panel
import AuditDesk.Screen.Rect
import AuditDesk.Screen.Style
import AuditDesk.Screen.Window
import AuditDesk.Screen.Wrap
import AuditDesk.Service.Address
import AuditDesk.Service.Address.DomainName
import AuditDesk.Service.Address.Host
import AuditDesk.Service.Address.HostNumber
import AuditDesk.Service.Address.Path
import AuditDesk.Service.Backend
import AuditDesk.Service.Call
import AuditDesk.Service.Client
import AuditDesk.Service.Failure
import AuditDesk.Service.Message
import AuditDesk.Service.Policy
import AuditDesk.Service.Remote
import AuditDesk.Service.Script
import AuditDesk.Service.Simulation
import AuditDesk.Service.Submission
import AuditDesk.Setup
import AuditDesk.Snippet
import AuditDesk.SnippetStore
import AuditDesk.Source
import AuditDesk.Storage
import AuditDesk.Storage.Fault
import AuditDesk.Storage.Location
import AuditDesk.Storage.Site
import AuditDesk.Text.Blank
import AuditDesk.Text.Cluster
import AuditDesk.Text.Composition
import AuditDesk.Text.Conjunct
import AuditDesk.Text.Direction
import AuditDesk.Text.Emoji
import AuditDesk.Text.Folding
import AuditDesk.Text.Joiner
import AuditDesk.Text.Letter
import AuditDesk.Text.Ligature
import AuditDesk.Text.Lines
import AuditDesk.Text.Marked
import AuditDesk.Text.Percent
import AuditDesk.Text.Property
import AuditDesk.Text.Punycode
import AuditDesk.Text.Spelled
import AuditDesk.Text.Utf8
import AuditDesk.Text.Width
import AuditDesk.Time.Calendar
import AuditDesk.Time.Clock
import AuditDesk.Time.Reading
import AuditDesk.Time.Timestamp
import AuditDesk.Token
import AuditDesk.Wire
