import Purity.Alias
import Purity.Check
import Purity.Verdict
import Purity.Collector
import Purity.CommandLine
import Purity.CommandLine.Arguments
import Purity.Config
import Purity.Config.Load
import Purity.Config.Value
import Purity.Context
import Purity.Decimal.Binary64
import Purity.Decimal.Shortest
import Purity.Definition
import Purity.Diagnostic
import Purity.Files.Path
import Purity.Files.Tree
import Purity.Log
import Purity.Main
import Purity.Map
import Purity.Name
import Purity.SortedSet
import Purity.Reference
import Purity.Registry
import Purity.Report
import Purity.Rule
import Purity.Scope
import Purity.Source
import Purity.Syntax.Grammar.Basic
import Purity.Syntax.Grammar.Expression
import Purity.Syntax.Grammar.Pattern
import Purity.Syntax.Grammar.Statement
import Purity.Syntax.Lexer
import Purity.Syntax.Literal
import Purity.Syntax.Node
import Purity.Syntax.Parser
import Purity.Syntax.Printer
import Purity.Syntax.StringLiteral
import Purity.Syntax.Token
import Purity.Syntax.Tree
import Purity.Text.Compatibility
import Purity.Text.Compatibility.Data
import Purity.Text.Identifier
import Purity.Text.CharClass
import Purity.Text.Quoted
import Purity.Text.Utf8
import Purity.Toml.Document
import Purity.Toml.Scalar
import Purity.Syntax.Mistake.Expression
import Purity.Syntax.Mistake.Parameter
import Purity.Syntax.Mistake.Pattern
import Purity.Syntax.Mistake.Slip
import Purity.Syntax.Mistake.Statement
import Purity.Syntax.Mistake.Search
import Purity.Escape
import Purity.Proofs.Layout
import Purity.Proofs.Name
import Purity.Proofs.Scope
import Purity.Proofs.Charge
import Purity.Proofs.Reference
import Purity.Proofs.Finding
import Purity.Proofs.Inheritance
import Purity.Proofs.Order
import Purity.Proofs.Naming
import Purity.Proofs.Marker
import Purity.Proofs.Inventory
import Purity.Proofs.Importable
import Purity.Proofs.Enclosure
import Purity.Proofs.Merge
import Purity.Proofs.Record
import Purity.Proofs.FileOrder
import Purity.Proofs.Collision
import Purity.Proofs.Climb
import Purity.Proofs.Lineage
import Purity.Proofs.Outcome
import Purity.Proofs.Canonical
import Purity.Proofs.FileName
import Purity.Proofs.Utf8
import Purity.Proofs.Loading
import Purity.Proofs.Ancestry
import Purity.Proofs.Trust
import Purity.Proofs.Nesting
import Purity.Proofs.Alias
import Purity.Proofs.Visibility
import Purity.Proofs.LostImport
import Purity.Proofs.Literal
import Purity.Proofs.Package
import Purity.Proofs.Discovery
import Purity.Proofs.Segments
import Purity.Proofs.MarkerName
import Purity.Proofs.Quoting
import Purity.Proofs.ImportSplit
import Purity.Proofs.RelativeName
import Purity.Proofs.Settings
import Purity.Proofs.Word
import Purity.Proofs.TokenLines
import Purity.Proofs.FieldLines
import Purity.Proofs.Reading
import Purity.Proofs.Expression
import Purity.Proofs.Pattern
import Purity.Proofs.Tidy
import Purity.Proofs.SimpleStatement
import Purity.Proofs.Statement
import Purity.Proofs.Parsed
