import Preflight.Check.Fault
import Preflight.Check.Options
import Preflight.Check.Outcome
import Preflight.Check.Stage
import Preflight.CommandLine.Given
import Preflight.CommandLine.Help
import Preflight.CommandLine.Invocation
import Preflight.CommandLine.Session
import Preflight.CommandLine.Usage
import Preflight.CommandLine.Word
import Preflight.Decimal.Binary64
import Preflight.Decimal.Shortest
import Preflight.Gateway.BundledSchema
import Preflight.Gateway.Config
import Preflight.Gateway.Decode
import Preflight.Gateway.Method
import Preflight.Gateway.Parser
import Preflight.Gateway.Placeholder
import Preflight.Json.Equality
import Preflight.Json.Indented
import Preflight.Json.Number
import Preflight.Json.Reader
import Preflight.Json.Show
import Preflight.Json.Value
import Preflight.Json.Written
import Preflight.Main
import Preflight.Mishap
import Preflight.Path
import Preflight.Pattern.Basic
import Preflight.Pattern.Escape
import Preflight.Pattern.Group
import Preflight.Pattern.Match
import Preflight.Pattern.Reader
import Preflight.Pattern.Repetition
import Preflight.Pattern.Token
import Preflight.Report.Console
import Preflight.Report.Dump
import Preflight.Report.Layout
import Preflight.Report.LogRecord
import Preflight.Report.Markup
import Preflight.Report.Style
import Preflight.Report.Tree
import Preflight.Report.Wrap
import Preflight.Routing.Context
import Preflight.Routing.Engine
import Preflight.Routing.Proxy
import Preflight.Routing.Router
import Preflight.Routing.Simulation
import Preflight.Routing.Template
import Preflight.Routing.Tree
import Preflight.Run
import Preflight.Schema.Applicator
import Preflight.Schema.Applicator.Array
import Preflight.Schema.Applicator.Basic
import Preflight.Schema.Applicator.Combination
import Preflight.Schema.Applicator.Leftover
import Preflight.Schema.Applicator.Object
import Preflight.Schema.Assertion
import Preflight.Schema.Compiled
import Preflight.Schema.Descent
import Preflight.Schema.Dialect
import Preflight.Schema.Distinct
import Preflight.Schema.Evaluation
import Preflight.Schema.MetaSchema
import Preflight.Schema.MetaSchema.Draft2019
import Preflight.Schema.MetaSchema.Draft2020
import Preflight.Schema.MetaSchema.Draft3
import Preflight.Schema.MetaSchema.Draft4
import Preflight.Schema.MetaSchema.Draft6
import Preflight.Schema.MetaSchema.Draft7
import Preflight.Schema.Multiple
import Preflight.Schema.Registry
import Preflight.Schema.Resolver
import Preflight.Schema.Rule
import Preflight.Schema.Trace
import Preflight.Schema.Unevaluated
import Preflight.Schema.Violation
import Preflight.Source.Choice
import Preflight.Source.FileTree
import Preflight.Source.Loader
import Preflight.Table
import Preflight.Text.Blank
import Preflight.Text.Case
import Preflight.Text.CellWidth
import Preflight.Text.Digit
import Preflight.Text.Encoding
import Preflight.Text.FlipTable
import Preflight.Text.Hex
import Preflight.Text.Integer
import Preflight.Text.Percent
import Preflight.Text.Printable
import Preflight.Text.Quoted
import Preflight.Text.Split
import Preflight.Text.SystemText
import Preflight.Text.Utf8
import Preflight.Text.Word
import Preflight.Url.Address
import Preflight.Url.Basic
import Preflight.Proofs.Results
import Preflight.Proofs.Routing.Segments
import Preflight.Proofs.Routing.TreeView
import Preflight.Proofs.Routing.TreeRoutes
import Preflight.Proofs.Routing.Coexist
import Preflight.Proofs.Routing.Startup
import Preflight.Proofs.Gateway.Conforming
import Preflight.Proofs.Gateway.LintAgreement
import Preflight.Proofs.Check.LintSource
import Preflight.Proofs.Check.Verdict
import Preflight.Proofs.Routing.TreeHistory
import Preflight.Proofs.Report.Levels
import Preflight.Proofs.Check.LessAsked
import Preflight.Proofs.Gateway.ParsingMishap
import Preflight.Proofs.Check.Mishaps
import Preflight.Proofs.Schema.Pointer
import Preflight.Proofs.Schema.Findings
import Preflight.Proofs.Schema.Reported
import Preflight.Proofs.Schema.Likeness
import Preflight.Proofs.Schema.Subschemas
import Preflight.Proofs.Schema.WalkLikeness
import Preflight.Proofs.Schema.Visiting
import Preflight.Proofs.Schema.Compiling
import Preflight.Proofs.Schema.LocalReferences
import Preflight.Proofs.Schema.Tidy
import Preflight.Proofs.Schema.Transport
import Preflight.Proofs.Schema.Knowing
import Preflight.Proofs.Url.Fragment
import Preflight.Proofs.Schema.Anchoring
import Preflight.Proofs.Source.Hosted
import Preflight.Proofs.Gateway.BundledText
import Preflight.Proofs.Check.Requests
import Preflight.Proofs.CommandLine.LogLevels
import Preflight.Proofs.Gateway.Rendering
import Preflight.Proofs.Routing.EngineHistory
import Preflight.Proofs.Gateway.Grammar
import Preflight.Proofs.Pattern.Remainders
import Preflight.Proofs.Gateway.Patterns
import Preflight.Proofs.Schema.Defects
import Preflight.Proofs.Gateway.FormatDefects
import Preflight.Proofs.Schema.MetaRegistry
import Preflight.Proofs.Schema.Vocabularies
import Preflight.Proofs.Schema.Admitting
import Preflight.Proofs.Schema.SimpleSchemas
import Preflight.Proofs.Schema.Reordered
import Preflight.Proofs.Gateway.ReportedDefects
import Preflight.Proofs.Routing.Captures
import Preflight.Proofs.Report.Upstreams
import Preflight.Proofs.Report.PlainTree
import Preflight.Proofs.Routing.Cancellation
import Preflight.Proofs.Routing.Isolation
import Preflight.Proofs.Text.Percent
import Preflight.Proofs.Source.FileUrls
import Preflight.Proofs.Text.Quoted
import Preflight.Proofs.Schema.Within
import Preflight.Proofs.Schema.Required
import Preflight.Proofs.Schema.Places
import Preflight.Proofs.Routing.ContextHistory
import Preflight.Proofs.Routing.TreePlaces
import Preflight.Proofs.Report.ShownText
import Preflight.Proofs.Check.ReportText
import Preflight.Proofs.Routing.Placeholders
