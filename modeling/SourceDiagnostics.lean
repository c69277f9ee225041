import SourceDiagnostics.Text.Utf8
import SourceDiagnostics.Text.GraphemeBase
import SourceDiagnostics.Text.Quoted
import SourceDiagnostics.Path
import SourceDiagnostics.Position
import SourceDiagnostics.LineTable
import SourceDiagnostics.Project
import SourceDiagnostics.Index
import SourceDiagnostics.Marker
import SourceDiagnostics.Json
import SourceDiagnostics.Diagnostic.Basic
import SourceDiagnostics.Diagnostic.Order
import SourceDiagnostics.Diagnostic.Json
import SourceDiagnostics.Finding
import SourceDiagnostics.Request
import SourceDiagnostics.FileError
import SourceDiagnostics.RequestError
import SourceDiagnostics.Note
import SourceDiagnostics.Decimal.Shortest
import SourceDiagnostics.Decimal.Scaled
import SourceDiagnostics.Json.Lexical
import SourceDiagnostics.Json.Skip
import SourceDiagnostics.Json.Mismatch
import SourceDiagnostics.Json.Record
import SourceDiagnostics.Config.Basic
import SourceDiagnostics.Config.Json
import SourceDiagnostics.Action
import SourceDiagnostics.Slot
import SourceDiagnostics.Files.Basic
import SourceDiagnostics.Files.Memory
import SourceDiagnostics.Files.Directory
import SourceDiagnostics.Offsets.Memo
import SourceDiagnostics.Offsets.Provider
import SourceDiagnostics.Offsets.History
import SourceDiagnostics.Services.Basic
import SourceDiagnostics.Services.Reports
import SourceDiagnostics.Validator
import SourceDiagnostics.BuildQueue
import SourceDiagnostics.Workspace
import SourceDiagnostics.Proofs.Action.Rules
import SourceDiagnostics.Proofs.Diagnostic.Stability
import SourceDiagnostics.Proofs.Finding.EditorOrder
import SourceDiagnostics.Proofs.Offsets.Nesting
import SourceDiagnostics.Proofs.Offsets.Steps
import SourceDiagnostics.Proofs.Offsets.Freshness
import SourceDiagnostics.Proofs.Offsets.CurrentTables
import SourceDiagnostics.Proofs.Services.Answers
import SourceDiagnostics.Proofs.Services.Lock
import SourceDiagnostics.Proofs.Validator.Stages
import SourceDiagnostics.Proofs.Validator.Completion
import SourceDiagnostics.Proofs.Validator.Traces
import SourceDiagnostics.Proofs.Validator.Course
import SourceDiagnostics.Proofs.Validator.LockDiscipline
import SourceDiagnostics.Proofs.Offsets.Moments
import SourceDiagnostics.Proofs.Offsets.ExactMemo
import SourceDiagnostics.Proofs.Offsets.LateReadings
import SourceDiagnostics.Proofs.Offsets.Stacked
import SourceDiagnostics.Proofs.Action.Pairs
import SourceDiagnostics.Proofs.Validator.Alike
import SourceDiagnostics.Session
import SourceDiagnostics.Workshop
import SourceDiagnostics.Proofs.Validator.Announcements
import SourceDiagnostics.Proofs.Session.Agreement
import SourceDiagnostics.Proofs.LineTable.Ascending
import SourceDiagnostics.Proofs.Finding.ByteOrder
import SourceDiagnostics.Proofs.Validator.Rebuild
import SourceDiagnostics.Proofs.Json.Grammar
import SourceDiagnostics.Proofs.Json.Readings
import SourceDiagnostics.Proofs.Json.Strings
import SourceDiagnostics.Proofs.Json.Numbers
import SourceDiagnostics.Proofs.Json.Values
import SourceDiagnostics.Proofs.Json.Scalars
import SourceDiagnostics.Proofs.Json.Records
import SourceDiagnostics.Proofs.Json.Unambiguity
import SourceDiagnostics.Proofs.Config.Json
import SourceDiagnostics.Proofs.Text.Utf8
import SourceDiagnostics.Proofs.Json.Rendering
import SourceDiagnostics.Proofs.Diagnostic.Json
import SourceDiagnostics.Proofs.Validator.Presentation
import SourceDiagnostics.Proofs.Files.Spellings
import SourceDiagnostics.Proofs.Offsets.Unchanging
import SourceDiagnostics.Proofs.Offsets.Clearing
import SourceDiagnostics.Proofs.Workshop.Accounts
import SourceDiagnostics.Proofs.Workshop.Background
import SourceDiagnostics.Proofs.LineTable.Lines
import SourceDiagnostics.Proofs.LineTable.Breaks
import SourceDiagnostics.Proofs.LineTable.Positions
import SourceDiagnostics.Proofs.LineTable.Cuts
import SourceDiagnostics.Proofs.LineTable.LineEndings
import SourceDiagnostics.Proofs.Text.Ascii
import SourceDiagnostics.Proofs.Path.ForwardSlashes
import SourceDiagnostics.Proofs.Validator.ReportedPaths
import SourceDiagnostics.Proofs.Path.Joining
import SourceDiagnostics.Proofs.Project.Resources
import SourceDiagnostics.Proofs.LineTable.Concatenation
import SourceDiagnostics.Proofs.Finding.Accounting
import SourceDiagnostics.Proofs.Offsets.Frames
import SourceDiagnostics.Proofs.Validator.Omissions
import SourceDiagnostics.Proofs.LineTable.Answers
import SourceDiagnostics.Proofs.Diagnostic.Sorting
import SourceDiagnostics.Proofs.Project.Spellings
import SourceDiagnostics.Proofs.Diagnostic.OneLine
import SourceDiagnostics.Proofs.Offsets.Inclusion
