import DocMend.Calendar
import DocMend.Command.Host
import DocMend.Command.Line
import DocMend.Command.Run
import DocMend.Commit.Basic
import DocMend.Commit.Category
import DocMend.Diagnostic.Basic
import DocMend.Disk.Basic
import DocMend.Disk.WorkingTree
import DocMend.Drift
import DocMend.Plan
import DocMend.Json.Basic
import DocMend.Json.Reader
import DocMend.Json.Writer
import DocMend.Launch.Outcome
import DocMend.Main
import DocMend.Number.Basic
import DocMend.Number.Decimal
import DocMend.Phrase
import DocMend.Proofs.Number.Counting
import DocMend.Proofs.Plan.Place
import DocMend.Proofs.Source.Cut
import DocMend.Proofs.Source.BlockEnd
import DocMend.Proofs.Text.Word
import DocMend.Release.Notes
import DocMend.Remedy
import DocMend.Repair.Console
import DocMend.Repair.Workspace
import DocMend.Repair.Memory
import DocMend.Repair.Run
import DocMend.Settings.Basic
import DocMend.Settings.Load
import DocMend.Shell.Arithmetic
import DocMend.Shell.Braces
import DocMend.Shell.Builtin.Basic
import DocMend.Shell.Builtin.Candidate
import DocMend.Shell.Builtin.Declaration
import DocMend.Shell.Builtin.Flow
import DocMend.Shell.Builtin.Folder
import DocMend.Shell.Builtin.Job
import DocMend.Shell.Builtin.Line
import DocMend.Shell.Builtin.Name
import DocMend.Shell.Builtin.Setting
import DocMend.Shell.Builtin.Stack
import DocMend.Shell.Builtin.Table
import DocMend.Shell.Builtin.Test
import DocMend.Shell.Calculation
import DocMend.Shell.Checksum
import DocMend.Shell.Condition
import DocMend.Shell.Content
import DocMend.Shell.Difference
import DocMend.Shell.Edit.Cycle
import DocMend.Shell.Edit.Reading
import DocMend.Shell.Edit.Script
import DocMend.Shell.Evaluation.Assigning
import DocMend.Shell.Evaluation.Basic
import DocMend.Shell.Evaluation.Command
import DocMend.Shell.Evaluation.Heading
import DocMend.Shell.Evaluation.Loop
import DocMend.Shell.Evaluation.Script
import DocMend.Shell.Evaluation.Simple
import DocMend.Shell.Execute
import DocMend.Shell.Expansion
import DocMend.Shell.Fields
import DocMend.Shell.Filing
import DocMend.Shell.Find.Expression
import DocMend.Shell.Find.Reading
import DocMend.Shell.Find.Walk
import DocMend.Shell.Folder
import DocMend.Shell.Grammar
import DocMend.Shell.Interpreter
import DocMend.Shell.Runner
import DocMend.Shell.Lookup
import DocMend.Shell.Machine
import DocMend.Shell.Octets
import DocMend.Shell.Pattern
import DocMend.Shell.Print.Decimal
import DocMend.Shell.Print.Escape
import DocMend.Shell.Print.Format
import DocMend.Shell.Print.Moment
import DocMend.Shell.Print.Quoting
import DocMend.Shell.Print.Script
import DocMend.Shell.Process
import DocMend.Shell.Reading
import DocMend.Shell.Redirect
import DocMend.Shell.Regex.Basic
import DocMend.Shell.Regex.Reading
import DocMend.Shell.Regex.Search
import DocMend.Shell.Rendering
import DocMend.Shell.Scan.Evaluation
import DocMend.Shell.Scan.Function
import DocMend.Shell.Scan.Grammar
import DocMend.Shell.Scan.Number
import DocMend.Shell.Scan.Program
import DocMend.Shell.Scan.Record
import DocMend.Shell.Scan.Regex
import DocMend.Shell.Scan.State
import DocMend.Shell.Scan.Stream
import DocMend.Shell.Scan.Table
import DocMend.Shell.Scan.Token
import DocMend.Shell.Scan.Value
import DocMend.Shell.Start
import DocMend.Shell.Tool.Awk
import DocMend.Shell.Tool.Basic
import DocMend.Shell.Tool.Characters
import DocMend.Shell.Tool.Checksums
import DocMend.Shell.Tool.Columns
import DocMend.Shell.Tool.Compare
import DocMend.Shell.Tool.Date
import DocMend.Shell.Tool.Dump
import DocMend.Shell.Tool.Files
import DocMend.Shell.Tool.Find
import DocMend.Shell.Tool.Grep
import DocMend.Shell.Tool.Listing
import DocMend.Shell.Tool.Mode
import DocMend.Shell.Tool.Names
import DocMend.Shell.Tool.Numbers
import DocMend.Shell.Tool.Options
import DocMend.Shell.Tool.Precedence
import DocMend.Shell.Tool.Sed
import DocMend.Shell.Tool.Show
import DocMend.Shell.Tool.Sort
import DocMend.Shell.Tool.System
import DocMend.Shell.Tool.Table
import DocMend.Shell.Tool.Version
import DocMend.Shell.Tool.Xargs
import DocMend.Shell.Trace
import DocMend.Shell.Tree
import DocMend.Shell.Value
import DocMend.Shell.Variables
import DocMend.Shell.Word.Reading
import DocMend.Shell.Word.Token
import DocMend.Source.Basic
import DocMend.Text.Blank
import DocMend.Text.Lowercase
import DocMend.Text.Quoted
import DocMend.Text.Search
import DocMend.Text.Utf16
import DocMend.Text.Utf8
import DocMend.Proofs.Diagnostic.Message
import DocMend.Proofs.Plan.Wording
import DocMend.Proofs.Repair.Transition
import DocMend.Proofs.Source.Splice
import DocMend.Proofs.Repair.Reached
import DocMend.Proofs.Repair.Tracking
import DocMend.Proofs.Repair.Preservation
import DocMend.Proofs.Plan.Enclosed
import DocMend.Proofs.Source.Anchor
import DocMend.Proofs.Source.Weave
import DocMend.Proofs.Source.Woven
import DocMend.Proofs.Repair.Together
import DocMend.Proofs.Repair.Separation
import DocMend.Proofs.Repair.Account
import DocMend.Proofs.Plan.Inert
import DocMend.Proofs.Disk.Write
import DocMend.Proofs.Text.Utf8
import DocMend.Proofs.Repair.Bytes
import DocMend.Proofs.Source.Scan
import DocMend.Proofs.Repair.Atomic
import DocMend.Proofs.Repair.Spelling
import DocMend.Proofs.Repair.Protocol
import DocMend.Proofs.Release.Sections
import DocMend.Proofs.Command.Arguments
import DocMend.Proofs.Launch.Capture
import DocMend.Proofs.Command.Performed
import DocMend.Proofs.Shell.Quotation
import DocMend.Proofs.Shell.Spelling
import DocMend.Proofs.Shell.Line
import DocMend.Proofs.Shell.Fields
import DocMend.Proofs.Shell.Call
import DocMend.Proofs.Shell.Script
import DocMend.Proofs.Commit.Range
import DocMend.Proofs.Command.Status
import DocMend.Proofs.Number.Order
import DocMend.Proofs.Drift.Survivors
import DocMend.Proofs.Source.LineEnd
import DocMend.Proofs.Source.Insertions
import DocMend.Proofs.Repair.Commuting
import DocMend.Proofs.Repair.LineEnds
import DocMend.Proofs.Plan.Nearest
import DocMend.Proofs.Text.Trim
import DocMend.Proofs.Text.Pieces
import DocMend.Proofs.Number.Rounding
import DocMend.Proofs.Number.Shortest
import DocMend.Proofs.Diagnostic.Grammar
import DocMend.Proofs.Diagnostic.Printed
import DocMend.Proofs.Json.Keyed
import DocMend.Proofs.Json.Written
import DocMend.Proofs.Diagnostic.Distinct
import DocMend.Proofs.Diagnostic.Lines
import DocMend.Proofs.Plan.Block
import DocMend.Proofs.Repair.Documented
import DocMend.Proofs.Commit.Record
import DocMend.Proofs.Commit.References
import DocMend.Proofs.Settings.Merge
import DocMend.Proofs.Calendar
