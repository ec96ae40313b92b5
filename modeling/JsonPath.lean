import JsonPath.Cli.Basic
import JsonPath.Cli.Command
import JsonPath.Cli.CommandLine
import JsonPath.Cli.Config
import JsonPath.Cli.Document
import JsonPath.Cli.Help
import JsonPath.Cli.Output
import JsonPath.Cli.Program
import JsonPath.Function.Basic
import JsonPath.Function.Builtin
import JsonPath.Json.Reader
import JsonPath.Json.Writer
import JsonPath.Location
import JsonPath.Main
import JsonPath.Node
import JsonPath.Number.Basic
import JsonPath.Number.Binary64
import JsonPath.Number.Literal
import JsonPath.Number.Shortest
import JsonPath.Pattern.Basic
import JsonPath.Pattern.Classes
import JsonPath.Pattern.Match
import JsonPath.Pattern.Reader
import JsonPath.Proofs.CanonicalDerivation
import JsonPath.Proofs.CanonicalLexing
import JsonPath.Proofs.Comparison
import JsonPath.Proofs.ConfigValidation
import JsonPath.Proofs.DepthLimits
import JsonPath.Proofs.Descendants
import JsonPath.Proofs.Diagnostics
import JsonPath.Proofs.Equality
import JsonPath.Proofs.ErrorSpans
import JsonPath.Proofs.EvalFailures
import JsonPath.Proofs.EvalInvariant
import JsonPath.Proofs.ExceptRuns
import JsonPath.Proofs.GrammarCompleteness
import JsonPath.Proofs.GrammarSoundness
import JsonPath.Proofs.GrammarSteps
import JsonPath.Proofs.JsonDocuments
import JsonPath.Proofs.Lexemes
import JsonPath.Proofs.LiteralEscapes
import JsonPath.Proofs.LiteralText
import JsonPath.Proofs.LocationOrder
import JsonPath.Proofs.Locations
import JsonPath.Proofs.NormalizedPaths
import JsonPath.Proofs.OutputConversion
import JsonPath.Proofs.QueryGrammar
import JsonPath.Proofs.ReadBack
import JsonPath.Proofs.RegistryRuns
import JsonPath.Proofs.RoundTrip
import JsonPath.Proofs.Rounding
import JsonPath.Proofs.ShortestText
import JsonPath.Proofs.SingularQueries
import JsonPath.Proofs.Slices
import JsonPath.Proofs.TokenPartition
import JsonPath.Proofs.TokenPatterns
import JsonPath.Proofs.TokenValues
import JsonPath.Proofs.Utf8Text
import JsonPath.Proofs.WellFormed
import JsonPath.Query.Basic
import JsonPath.Query.Eval
import JsonPath.Query.Render
import JsonPath.Registries
import JsonPath.Slice
import JsonPath.Syntax.Diagnostic
import JsonPath.Syntax.Grammar
import JsonPath.Syntax.Lexer
import JsonPath.Syntax.Literal
import JsonPath.Syntax.ParseError
import JsonPath.Syntax.Span
import JsonPath.Syntax.Token
import JsonPath.Text.Alphanumeric
import JsonPath.Text.CaseFold
import JsonPath.Text.Decimal
import JsonPath.Text.Identifier
import JsonPath.Text.Integer
import JsonPath.Text.Printable
import JsonPath.Text.Quoted
import JsonPath.Text.RangeTable
import JsonPath.Text.Similarity
import JsonPath.Text.Space
import JsonPath.Text.Utf8
import JsonPath.Text.Wrap
import JsonPath.Toml.Basic
import JsonPath.Toml.Reader
import JsonPath.Toml.Scalar
import JsonPath.Value.Basic
import JsonPath.Value.Kind
