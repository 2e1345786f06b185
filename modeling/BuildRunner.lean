import BuildRunner.Application
import BuildRunner.Command
import BuildRunner.Error
import BuildRunner.Execution
import BuildRunner.Graph.Basic
import BuildRunner.Graph.CycleSearch
import BuildRunner.Graph.Plan
import BuildRunner.Graph.Traversal
import BuildRunner.Graph.Validation
import BuildRunner.Log.Directive
import BuildRunner.Log.Event
import BuildRunner.Log.Filter
import BuildRunner.Log.Logged
import BuildRunner.Log.Pattern
import BuildRunner.Options.Basic
import BuildRunner.Options.Parse
import BuildRunner.OrderedMap
import BuildRunner.RuleFile.Delivery
import BuildRunner.RuleFile.Line
import BuildRunner.RuleFile.Parse
import BuildRunner.RuleFile.Policy
import BuildRunner.RuleFile.Source
import BuildRunner.Runner.Basic
import BuildRunner.Runner.Dry
import BuildRunner.Runner.Local
import BuildRunner.Runner.Writer
import BuildRunner.Sandbox.Arguments
import BuildRunner.Sandbox.Calendar
import BuildRunner.Sandbox.Digest
import BuildRunner.Sandbox.FileMode
import BuildRunner.Sandbox.FileSystem
import BuildRunner.Sandbox.FileTest
import BuildRunner.Sandbox.Format
import BuildRunner.Sandbox.Host
import BuildRunner.Sandbox.Launching
import BuildRunner.Sandbox.Machine
import BuildRunner.Sandbox.Number
import BuildRunner.Sandbox.Process
import BuildRunner.Sandbox.Programs
import BuildRunner.Sandbox.Quotation
import BuildRunner.Sandbox.Regex
import BuildRunner.Sandbox.Shell.Arithmetic
import BuildRunner.Sandbox.Shell.Builtins
import BuildRunner.Sandbox.Shell.Condition
import BuildRunner.Sandbox.Shell.Evaluation
import BuildRunner.Sandbox.Shell.Expansion
import BuildRunner.Sandbox.Shell.Parser
import BuildRunner.Sandbox.Shell.Pattern
import BuildRunner.Sandbox.Shell.Printing
import BuildRunner.Sandbox.Shell.Program
import BuildRunner.Sandbox.Shell.Reader
import BuildRunner.Sandbox.Shell.Redirecting
import BuildRunner.Sandbox.Shell.Running
import BuildRunner.Sandbox.Shell.State
import BuildRunner.Sandbox.Shell.Syntax
import BuildRunner.Sandbox.Signal
import BuildRunner.Sandbox.Tree
import BuildRunner.Sandbox.Utility.Columns
import BuildRunner.Sandbox.Utility.Condition
import BuildRunner.Sandbox.Utility.Copying
import BuildRunner.Sandbox.Utility.Counting
import BuildRunner.Sandbox.Utility.Dumping
import BuildRunner.Sandbox.Utility.Encoding
import BuildRunner.Sandbox.Utility.Escape
import BuildRunner.Sandbox.Utility.Expression
import BuildRunner.Sandbox.Utility.Granting
import BuildRunner.Sandbox.Utility.Listing
import BuildRunner.Sandbox.Utility.Making
import BuildRunner.Sandbox.Utility.Naming
import BuildRunner.Sandbox.Utility.Ordering
import BuildRunner.Sandbox.Utility.Printing
import BuildRunner.Sandbox.Utility.Reading
import BuildRunner.Sandbox.Utility.Removing
import BuildRunner.Sandbox.Utility.Reporting
import BuildRunner.Sandbox.Utility.Sequence
import BuildRunner.Sandbox.Utility.Showing
import BuildRunner.Sandbox.Utility.Splitting
import BuildRunner.Sandbox.Utility.Starting
import BuildRunner.Sandbox.Utility.Summing
import BuildRunner.Sandbox.Utility.Translating
import BuildRunner.Text.Alphanumeric
import BuildRunner.Text.Blank
import BuildRunner.Text.Lines
import BuildRunner.Text.Octets
import BuildRunner.Text.Quoted
import BuildRunner.Text.Utf8
import BuildRunner.Text.Visible
import BuildRunner.Main
import BuildRunner.Proofs.FirstOccurrence
import BuildRunner.Proofs.Graph.CycleInvariant
import BuildRunner.Proofs.Graph.CycleDetection
import BuildRunner.Proofs.Graph.LoopHeads
import BuildRunner.Proofs.Graph.WalkInvariant
import BuildRunner.Proofs.Graph.PlanOrder
import BuildRunner.Proofs.Graph.Recursion
import BuildRunner.Proofs.Graph.RecursiveWalk
import BuildRunner.Proofs.Graph.RecursiveSearch
import BuildRunner.Proofs.Graph.Progress
import BuildRunner.Proofs.Graph.Termination
import BuildRunner.Proofs.Execution.Dispatches
import BuildRunner.Proofs.Execution.DependencySafety
import BuildRunner.Proofs.Execution.LogReadings
import BuildRunner.Proofs.Execution.TruthfulLog
import BuildRunner.Proofs.Execution.FailFast
import BuildRunner.Proofs.Text.LineEnds
import BuildRunner.Proofs.Text.Words
import BuildRunner.Proofs.RuleFile.LineForms
import BuildRunner.Proofs.Graph.Validation
import BuildRunner.Proofs.Graph.SameRules
import BuildRunner.Proofs.RuleFile.Reading
import BuildRunner.Proofs.Execution.FaultPrecedence
import BuildRunner.Proofs.RuleFile.WellFormed
import BuildRunner.Proofs.RuleFile.CanonicalText
import BuildRunner.Proofs.RuleFile.Declarations
import BuildRunner.Proofs.RuleFile.Meaning
import BuildRunner.Proofs.RuleFile.FirstFault
import BuildRunner.Proofs.RuleFile.Redeclaration
import BuildRunner.Proofs.Graph.Overlay
import BuildRunner.Proofs.RuleFile.Concatenation
import BuildRunner.Proofs.Text.LongestRuns
import BuildRunner.Proofs.RuleFile.LineGrammar
import BuildRunner.Proofs.Runner.CommandForm
import BuildRunner.Proofs.Runner.EmptyCommand
import BuildRunner.Proofs.Runner.Writing
import BuildRunner.Proofs.Execution.ReportedOutput
import BuildRunner.Proofs.Text.StrictDecoding
import BuildRunner.Proofs.RuleFile.ByteReading
import BuildRunner.Proofs.Runner.Limits
import BuildRunner.Proofs.Runner.CommandEnd
import BuildRunner.Proofs.Text.LossyDecodingRule
import BuildRunner.Proofs.Text.LossyLines
import BuildRunner.Proofs.Runner.CapturedOutput
import BuildRunner.Proofs.Execution.Truncation
import BuildRunner.Proofs.Runner.Unlimited
import BuildRunner.Proofs.Execution.Foretelling
import BuildRunner.Proofs.Execution.DryRun
import BuildRunner.Proofs.Execution.EqualGraphs
import BuildRunner.Proofs.RuleFile.EffectiveLines
import BuildRunner.Proofs.RuleFile.Layout
import BuildRunner.Proofs.Graph.MissingNames
import BuildRunner.Proofs.Execution.ReachedPart
import BuildRunner.Proofs.Graph.Thinning
import BuildRunner.Proofs.Graph.ThinnedWalk
import BuildRunner.Proofs.Graph.ThinnedSearch
import BuildRunner.Proofs.Graph.Composition
import BuildRunner.Proofs.Options.Requests
import BuildRunner.Proofs.Options.Spelling
