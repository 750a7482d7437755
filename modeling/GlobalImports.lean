import GlobalImports.Text.Blank
import GlobalImports.Text.Digit
import GlobalImports.Text.Span
import GlobalImports.Unicode.Ranges
import GlobalImports.Unicode.Utf8
import GlobalImports.Unicode.Category
import GlobalImports.Unicode.CategoryRuns
import GlobalImports.Unicode.CaseFolding
import GlobalImports.Unicode.Property
import GlobalImports.Unicode.BinaryProperty
import GlobalImports.Unicode.ScriptRuns
import GlobalImports.Unicode.ScriptSharing
import GlobalImports.Unicode.Script
import GlobalImports.Unicode.Segmentation
import GlobalImports.Unicode.AgeRuns
import GlobalImports.Unicode.Age
import GlobalImports.Unicode.Latest
import GlobalImports.Keyword
import GlobalImports.Clause
import GlobalImports.Statement
import GlobalImports.Pattern.Reader
import GlobalImports.Pattern.Property
import GlobalImports.Pattern.Escape
import GlobalImports.Pattern.Bracket
import GlobalImports.Pattern.Form
import GlobalImports.Pattern.Automaton.Layout
import GlobalImports.Pattern.Automaton.Members
import GlobalImports.Pattern.Automaton.LiteralTree
import GlobalImports.Pattern.Extent
import GlobalImports.Pattern.Notation
import GlobalImports.Pattern
import GlobalImports.Template
import GlobalImports.Text.Quoted
import GlobalImports.Resolver
import GlobalImports.Replacer
import GlobalImports.Builder
import GlobalImports.Settings
import GlobalImports.Optimizer
import GlobalImports.Decimal.Double
import GlobalImports.Decimal.Shortest
import GlobalImports.Json.Fault
import GlobalImports.Json.Reader
import GlobalImports.Json.Number
import GlobalImports.Json.Skip
import GlobalImports.Json.Typed
import GlobalImports.Settings.Document
import GlobalImports.Proofs.Regex.Outcomes
import GlobalImports.Proofs.Regex.Remainder
import GlobalImports.Proofs.Regex.Preference
import GlobalImports.Proofs.Regex.Runs
import GlobalImports.Proofs.Regex.Tokens
import GlobalImports.Proofs.Text.Run
import GlobalImports.Proofs.Text.Inert
import GlobalImports.Proofs.Text.Bytes
import GlobalImports.Proofs.Clause.Declarations
import GlobalImports.Proofs.Clause.Targets
import GlobalImports.Proofs.Clause.Match
import GlobalImports.Proofs.Clause.Layout
import GlobalImports.Proofs.Clause.Parse
import GlobalImports.Proofs.Clause.Lexeme
import GlobalImports.Proofs.Clause.Pass
import GlobalImports.Proofs.Clause.OuterRuns
import GlobalImports.Proofs.Statement.Shape
import GlobalImports.Proofs.Statement.Match
import GlobalImports.Proofs.Statement.Reading
import GlobalImports.Proofs.Statement.Boundary
import GlobalImports.Proofs.Statement.Inert
import GlobalImports.Proofs.Statement.Scan
import GlobalImports.Proofs.Replacer.Parts
import GlobalImports.Proofs.Replacer.Splice
import GlobalImports.Proofs.Replacer.Boundary
import GlobalImports.Proofs.Replacer.Legal
import GlobalImports.Proofs.Replacer.LineStart
import GlobalImports.Proofs.Replacer.Series
import GlobalImports.Proofs.Replacer.Idempotence
import GlobalImports.Proofs.Builder.Steps
import GlobalImports.Proofs.Replacer.Confinement
import GlobalImports.Proofs.Template.References
import GlobalImports.Proofs.Pattern.Names
import GlobalImports.Proofs.Template.Escaped
import GlobalImports.Proofs.Clause.Renames
import GlobalImports.Proofs.Json.Grammar
import GlobalImports.Proofs.Json.Strings
import GlobalImports.Proofs.Json.Tokens
import GlobalImports.Proofs.Json.Skip
import GlobalImports.Proofs.Json.Outcome
import GlobalImports.Proofs.Json.Members
import GlobalImports.Proofs.Json.Refusals
import GlobalImports.Proofs.Settings.Rendering
import GlobalImports.Proofs.Settings.Readers
import GlobalImports.Proofs.Settings.Manifest
import GlobalImports.Proofs.Settings.Defects
