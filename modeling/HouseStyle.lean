import HouseStyle.Cache
import HouseStyle.Catalog
import HouseStyle.Command.Arguments
import HouseStyle.Command.Project
import HouseStyle.Command.Run
import HouseStyle.Complexity
import HouseStyle.Config.Basic
import HouseStyle.Config.Error
import HouseStyle.Config.Project
import HouseStyle.Config.Reader
import HouseStyle.Console
import HouseStyle.Declaration
import HouseStyle.Detection
import HouseStyle.Diff
import HouseStyle.Edit
import HouseStyle.FileTree
import HouseStyle.Fix
import HouseStyle.Glob
import HouseStyle.JsonValue
import HouseStyle.Log
import HouseStyle.Main
import HouseStyle.Order
import HouseStyle.Path
import HouseStyle.Plugin
import HouseStyle.Registry
import HouseStyle.Report.Basic
import HouseStyle.Report.Terminal
import HouseStyle.Rule
import HouseStyle.RuleId
import HouseStyle.SourceFile
import HouseStyle.Suffix
import HouseStyle.Syntax.Expression
import HouseStyle.Syntax.Lexeme
import HouseStyle.Syntax.Literal
import HouseStyle.Syntax.Node
import HouseStyle.Syntax.Parser
import HouseStyle.Syntax.Pattern
import HouseStyle.Syntax.Statement
import HouseStyle.Terminal.Box
import HouseStyle.Terminal.Console
import HouseStyle.Terminal.Layout
import HouseStyle.Terminal.Markup
import HouseStyle.Terminal.Style
import HouseStyle.Terminal.Width
import HouseStyle.Text.Basic
import HouseStyle.Text.Case
import HouseStyle.Text.CharSet
import HouseStyle.Text.Digit
import HouseStyle.Text.Identifier
import HouseStyle.Text.Lines
import HouseStyle.Text.Normal
import HouseStyle.Text.Printable
import HouseStyle.Text.Quoted
import HouseStyle.Text.Utf8
import HouseStyle.Token
import HouseStyle.Toml.Document
import HouseStyle.Toml.Scalar
import HouseStyle.Toml.Table
import HouseStyle.Value
import HouseStyle.Violation
import HouseStyle.Proofs.RuleId
import HouseStyle.Proofs.Config.Selection
import HouseStyle.Proofs.Suffix.Merging
import HouseStyle.Proofs.Suffix.NormalForm
import HouseStyle.Proofs.Suffix.Coverage
import HouseStyle.Proofs.Config.WellFormed
import HouseStyle.Proofs.Config.Options
import HouseStyle.Proofs.Config.NormalForm
import HouseStyle.Proofs.Registry.Freshness
import HouseStyle.Proofs.Edit.Conflict
import HouseStyle.Proofs.Edit.Splice
import HouseStyle.Proofs.Naming.Suffixes
import HouseStyle.Proofs.Naming.NewNames
import HouseStyle.Proofs.Complexity.ClosedForm
import HouseStyle.Proofs.Syntax.Addresses
import HouseStyle.Proofs.Syntax.WalkOrder
import HouseStyle.Proofs.Complexity.Disjoint
import HouseStyle.Proofs.Complexity.Reports
import HouseStyle.Proofs.Complexity.Invariance
import HouseStyle.Proofs.Complexity.Runs
import HouseStyle.Proofs.Edit.Weave
import HouseStyle.Proofs.Naming.Renaming
import HouseStyle.Proofs.Naming.Declarations
import HouseStyle.Proofs.Token.Places
import HouseStyle.Proofs.Token.LineEnds
import HouseStyle.Proofs.Syntax.Tree
import HouseStyle.Proofs.Syntax.Parsing
import HouseStyle.Proofs.Syntax.Expressions
import HouseStyle.Proofs.Syntax.Classes
import HouseStyle.Proofs.Syntax.Lexing
import HouseStyle.Proofs.Syntax.Indentation
import HouseStyle.Proofs.Token.Dangling
import HouseStyle.Proofs.Syntax.Branches
import HouseStyle.Proofs.Complexity.Elif
import HouseStyle.Proofs.Naming.Alignment
import HouseStyle.Proofs.Naming.Placement
import HouseStyle.Proofs.Detection.Checkers
import HouseStyle.Proofs.Fix.ByteExact
import HouseStyle.Proofs.Fix.Agreement
import HouseStyle.Proofs.Fix.Frame
import HouseStyle.Proofs.Command.Independence
import HouseStyle.Proofs.Edit.Acceptance
import HouseStyle.Proofs.Suffix.Laws
import HouseStyle.Proofs.Suffix.Stars
import HouseStyle.Proofs.FileTree.Discovery
import HouseStyle.Proofs.Path.Shown
import HouseStyle.Proofs.Report.Groups
import HouseStyle.Proofs.Report.Json
import HouseStyle.Proofs.Syntax.Levels
import HouseStyle.Proofs.Console.Laws
import HouseStyle.Proofs.Terminal.Console
import HouseStyle.Proofs.Report.Literal
import HouseStyle.Proofs.Toml.Faults
import HouseStyle.Proofs.Config.Loading
import HouseStyle.Proofs.Command.ProjectErrors
