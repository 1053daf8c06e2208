import DocSuite.Check.Basic
import DocSuite.Check.Insert
import DocSuite.Check.Ledger
import DocSuite.CommandLine.Arguments
import DocSuite.CommandLine.Command
import DocSuite.CommandLine.Run
import DocSuite.Compilation
import DocSuite.Decimal.Binary64
import DocSuite.Execution.Behavior
import DocSuite.Execution.Evaluate
import DocSuite.Execution.Expect
import DocSuite.Execution.Object
import DocSuite.Execution.Raised
import DocSuite.Expectation
import DocSuite.FileTree
import DocSuite.Import.Execute
import DocSuite.Import.Loading
import DocSuite.Import.Loads
import DocSuite.Import.Location
import DocSuite.Json
import DocSuite.Json.Read
import DocSuite.Log
import DocSuite.Main
import DocSuite.Manifest.Basic
import DocSuite.Manifest.Cache
import DocSuite.Markdown.Address
import DocSuite.Markdown.Block
import DocSuite.Markdown.Definition
import DocSuite.Markdown.Emphasis
import DocSuite.Markdown.Entity
import DocSuite.Markdown.Html
import DocSuite.Markdown.Inline.Basic
import DocSuite.Markdown.Inline.Element
import DocSuite.Markdown.Inline.Read
import DocSuite.Markdown.Inline.Skip
import DocSuite.Markdown.Line
import DocSuite.Markdown.Link
import DocSuite.Markdown.Structure
import DocSuite.Options
import DocSuite.Order
import DocSuite.Path
import DocSuite.Record
import DocSuite.Report
import DocSuite.Report.Detail
import DocSuite.Sample.Basic
import DocSuite.Sample.Comments
import DocSuite.Sample.Parse
import DocSuite.Sample.Scan
import DocSuite.Sample.Trailing
import DocSuite.Suite.Collection
import DocSuite.Suite.Program
import DocSuite.Suite.Registry
import DocSuite.Syntax.Basic
import DocSuite.Syntax.Fault
import DocSuite.Syntax.Grammar.Basic
import DocSuite.Syntax.Grammar.Compound
import DocSuite.Syntax.Grammar.Expression
import DocSuite.Syntax.Grammar.Literal
import DocSuite.Syntax.Grammar.Parameter
import DocSuite.Syntax.Grammar.Pattern
import DocSuite.Syntax.Grammar.Statement
import DocSuite.Syntax.Grammar.Target
import DocSuite.Syntax.Interpolated
import DocSuite.Syntax.Literal
import DocSuite.Syntax.Parser
import DocSuite.Syntax.Printer
import DocSuite.Syntax.Terminal
import DocSuite.Syntax.Token
import DocSuite.Syntax.Token.Lexer
import DocSuite.Text.Blank
import DocSuite.Text.Case
import DocSuite.Text.CharacterName
import DocSuite.Text.Compose
import DocSuite.Text.Digit
import DocSuite.Text.Glob
import DocSuite.Text.Identifier
import DocSuite.Text.Printable
import DocSuite.Text.Punctuation
import DocSuite.Text.Punycode
import DocSuite.Text.Quoted
import DocSuite.Text.Ranges
import DocSuite.Text.Utf8
import DocSuite.Toml.Basic
import DocSuite.Toml.Read
import DocSuite.Value
import DocSuite.Proofs.Forest
import DocSuite.Proofs.Restoration
import DocSuite.Proofs.Settled
import DocSuite.Proofs.Scope
import DocSuite.Proofs.Grammar.Extent
import DocSuite.Proofs.Grammar.Reads
import DocSuite.Proofs.Grammar.Text
import DocSuite.Proofs.Grammar.Expression
import DocSuite.Proofs.Grammar.Statement
import DocSuite.Proofs.Grammar.Compound
import DocSuite.Proofs.Split
import DocSuite.Proofs.Manifest
import DocSuite.Proofs.Path
import DocSuite.Proofs.Location
import DocSuite.Proofs.Loads
import DocSuite.Proofs.Place
import DocSuite.Proofs.Token.Scan
import DocSuite.Proofs.Token.Span
import DocSuite.Proofs.Grammar.Place
import DocSuite.Proofs.Numbering
import DocSuite.Proofs.Trailing
import DocSuite.Proofs.Sample
import DocSuite.Proofs.Hoisting
import DocSuite.Proofs.Print.Expression
import DocSuite.Proofs.Print.Program
import DocSuite.Proofs.Outcome
import DocSuite.Proofs.Compilation
import DocSuite.Proofs.Grammar.End
import DocSuite.Proofs.Thunk
import DocSuite.Proofs.Independence
import DocSuite.Proofs.Delay
import DocSuite.Proofs.Balance
import DocSuite.Proofs.FutureImports
import DocSuite.Proofs.Diagnostic
import DocSuite.Proofs.DocumentOrder
import DocSuite.Proofs.Registration
import DocSuite.Proofs.CaseName
import DocSuite.Proofs.Ownership
import DocSuite.Proofs.ScopePart
import DocSuite.Proofs.Opening
import DocSuite.Proofs.Needed
import DocSuite.Proofs.ManifestSearch
import DocSuite.Proofs.LoadOrder
import DocSuite.Proofs.NameUse
import DocSuite.Proofs.HoistedName
import DocSuite.Proofs.ErrorCheck
import DocSuite.Proofs.Bracketing
import DocSuite.Proofs.Element
import DocSuite.Proofs.Title
import DocSuite.Proofs.LongInteger
import DocSuite.Proofs.Declaration
import DocSuite.Proofs.Listing
import DocSuite.Proofs.Column
