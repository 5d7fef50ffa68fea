import UnitReview.Analyzer
import UnitReview.CommandLine.Help
import UnitReview.CommandLine.Reader
import UnitReview.CommandLine.Spec
import UnitReview.Csharp.Defects
import UnitReview.Csharp.Grammar.Arguments
import UnitReview.Csharp.Grammar.Basic
import UnitReview.Csharp.Grammar.Declarations
import UnitReview.Csharp.Grammar.Expressions
import UnitReview.Csharp.Grammar.Lists
import UnitReview.Csharp.Grammar.Patterns
import UnitReview.Csharp.Grammar.Queries
import UnitReview.Csharp.Grammar.Statements
import UnitReview.Csharp.Grammar.Types
import UnitReview.Csharp.Grammar.Values
import UnitReview.Csharp.Lexical
import UnitReview.Csharp.Lowering
import UnitReview.Csharp.Reader
import UnitReview.Csharp.Scanner
import UnitReview.Csharp.Token
import UnitReview.Csharp.Tree
import UnitReview.Decimal.Shortest
import UnitReview.Diagnostic
import UnitReview.Failure
import UnitReview.FrontEnd
import UnitReview.Host.FileSystem
import UnitReview.Host.OsText
import UnitReview.Host.Path
import UnitReview.Host.Process
import UnitReview.Host.SystemError
import UnitReview.Json.Fault
import UnitReview.Json.Reader
import UnitReview.Json.Value
import UnitReview.Main
import UnitReview.Metrics
import UnitReview.Orchestrator
import UnitReview.Report
import UnitReview.Request
import UnitReview.Result
import UnitReview.Review
import UnitReview.Rule.Basic
import UnitReview.Rule.Category
import UnitReview.Rule.Groups
import UnitReview.Rule.Performance
import UnitReview.Rule.Query
import UnitReview.Rule.Registry
import UnitReview.Rule.Security
import UnitReview.Rule.Shape
import UnitReview.Rule.Style
import UnitReview.Settings
import UnitReview.Shell.Arithmetic
import UnitReview.Shell.Expansion
import UnitReview.Shell.Interpreter
import UnitReview.Shell.Pattern
import UnitReview.Shell.Reader
import UnitReview.Shell.Session
import UnitReview.Shell.Syntax
import UnitReview.Shell.Utilities
import UnitReview.Shell.Utility.Basic
import UnitReview.Shell.Utility.Files
import UnitReview.Shell.Utility.Lines
import UnitReview.Shell.Utility.Output
import UnitReview.Shell.Utility.Tests
import UnitReview.Staging
import UnitReview.Syntax.Kind
import UnitReview.Syntax.Node
import UnitReview.Syntax.Span
import UnitReview.Terminal.Styled
import UnitReview.Text.Basic
import UnitReview.Text.Blank
import UnitReview.Text.Folding
import UnitReview.Text.Identifier
import UnitReview.Text.Lines
import UnitReview.Text.Quoted
import UnitReview.Text.Ranges
import UnitReview.Text.Search
import UnitReview.Text.Utf8
import UnitReview.Text.Word
import UnitReview.Wire.Reader
import UnitReview.Wire.Writer
import UnitReview.Workstation
import UnitReview.Yaml.Cursor
import UnitReview.Yaml.Decoder
import UnitReview.Yaml.Document
import UnitReview.Yaml.Events
import UnitReview.Yaml.Fault
import UnitReview.Yaml.Meaning
import UnitReview.Yaml.Properties
import UnitReview.Yaml.Scalars
import UnitReview.Yaml.Token
import UnitReview.Yaml.Tokens
import UnitReview.Proofs.Json.Layout
import UnitReview.Proofs.Wire.Reads
import UnitReview.Proofs.Wire.RoundTrip
import UnitReview.Proofs.Host.FileSystem
import UnitReview.Proofs.Staging
import UnitReview.Proofs.Text.Utf8
import UnitReview.Proofs.Analyzer
import UnitReview.Proofs.Host.OsText
import UnitReview.Proofs.Host.Process
import UnitReview.Proofs.Orchestrator.Transparency
import UnitReview.Proofs.Orchestrator.Residue
import UnitReview.Proofs.Orchestrator.Isolation
import UnitReview.Proofs.Rule.Registry
import UnitReview.Proofs.Rule.Decomposition
import UnitReview.Proofs.Rule.Tagging
import UnitReview.Proofs.CommandLine.Refusal
import UnitReview.Proofs.Orchestrator.Arguments
import UnitReview.Proofs.Host.Launch
import UnitReview.Proofs.Orchestrator.Availability
import UnitReview.Proofs.Wire.Words
import UnitReview.Proofs.CommandLine.Requests
import UnitReview.Proofs.Orchestrator.Producers
import UnitReview.Proofs.Naming
import UnitReview.Proofs.FrontEnd
import UnitReview.Proofs.Json.Grammar
import UnitReview.Proofs.Json.Recognition
import UnitReview.Proofs.Wire.Decoding
import UnitReview.Proofs.Wire.Members
import UnitReview.Proofs.Wire.Forms
import UnitReview.Proofs.Wire.ObjectForm
import UnitReview.Proofs.Complexity
import UnitReview.Proofs.Csharp.Outermost
import UnitReview.Proofs.Rule.Comments
import UnitReview.Proofs.Csharp.Lowering
import UnitReview.Proofs.Syntax.Branching
import UnitReview.Proofs.Syntax.Occurrences
import UnitReview.Proofs.Syntax.Spans
import UnitReview.Proofs.Text.Search
import UnitReview.Proofs.Rule.Chains
import UnitReview.Proofs.Rule.Earliest
import UnitReview.Proofs.Text.Lines
import UnitReview.Proofs.Text.Trimming
import UnitReview.Proofs.FileText
import UnitReview.Proofs.Rule.Lambdas
import UnitReview.Proofs.Rule.Casing
import UnitReview.Proofs.Terminal.Visible
import UnitReview.Proofs.Report
import UnitReview.Proofs.Rule.Materializing
import UnitReview.Proofs.Rule.LongQueries
import UnitReview.Proofs.Rule.Links
import UnitReview.Proofs.Syntax.Walk
