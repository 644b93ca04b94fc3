import Patrol.Banner
import Patrol.Catalog.Basic
import Patrol.Catalog.Builtin
import Patrol.Check
import Patrol.CodeSet
import Patrol.CommandLine.Basic
import Patrol.CommandLine.Reader
import Patrol.CommandLine.Words
import Patrol.Config.Basic
import Patrol.Config.Load
import Patrol.Config.Writer
import Patrol.Decimal.Double
import Patrol.Enforcement
import Patrol.Filter
import Patrol.Glob.Basic
import Patrol.Glob.Reader
import Patrol.Glob.Token
import Patrol.Init
import Patrol.Inspector
import Patrol.Json.Reader
import Patrol.Json.Value
import Patrol.Language
import Patrol.Listing
import Patrol.Listing.Reader
import Patrol.Log
import Patrol.Main
import Patrol.Pattern.Anchor
import Patrol.Pattern.Basic
import Patrol.Pattern.Expr
import Patrol.Pattern.Reader
import Patrol.Pattern.Size
import Patrol.Pattern.Term
import Patrol.Program
import Patrol.Proofs.Banner
import Patrol.Proofs.Catalog.Built
import Patrol.Proofs.Catalog.Builtin
import Patrol.Proofs.Catalog.Comparison
import Patrol.Proofs.Catalog.Definitions
import Patrol.Proofs.Catalog.Keywords
import Patrol.Proofs.Catalog.LineEnds
import Patrol.Proofs.Catalog.Noninterference
import Patrol.Proofs.Catalog.Selection
import Patrol.Proofs.Catalog.Surroundings
import Patrol.Proofs.Check.Alike
import Patrol.Proofs.Check.Bytes
import Patrol.Proofs.Check.Normal
import Patrol.Proofs.Check.Run
import Patrol.Proofs.Check.Shrink
import Patrol.Proofs.Check.Strict
import Patrol.Proofs.Check.Workers
import Patrol.Proofs.CodeSet
import Patrol.Proofs.CommandLine.Carried
import Patrol.Proofs.CommandLine.Options
import Patrol.Proofs.CommandLine.Settled
import Patrol.Proofs.CommandLine.Sides
import Patrol.Proofs.CommandLine.Words
import Patrol.Proofs.Config.Load
import Patrol.Proofs.Config.Order
import Patrol.Proofs.Config.Written
import Patrol.Proofs.Filter.Directories
import Patrol.Proofs.Filter.Pruning
import Patrol.Proofs.Filter.Standard
import Patrol.Proofs.Glob.Floating
import Patrol.Proofs.Glob.Parts
import Patrol.Proofs.Glob.Reader
import Patrol.Proofs.Glob.Words
import Patrol.Proofs.Init.Document
import Patrol.Proofs.Init.Failure
import Patrol.Proofs.Init.Repeated
import Patrol.Proofs.Init.Run
import Patrol.Proofs.Json.Reader
import Patrol.Proofs.Language
import Patrol.Proofs.Listing.Records
import Patrol.Proofs.Listing.Rows
import Patrol.Proofs.Listing.Table
import Patrol.Proofs.Pattern.Begins
import Patrol.Proofs.Pattern.Landing
import Patrol.Proofs.Pattern.Literal
import Patrol.Proofs.Pattern.Returned
import Patrol.Proofs.Pattern.Returns
import Patrol.Proofs.Program.Consumers
import Patrol.Proofs.Program.Init
import Patrol.Proofs.Program.Shown
import Patrol.Proofs.Program.Stages
import Patrol.Proofs.Regex.Begins
import Patrol.Proofs.Regex.Context
import Patrol.Proofs.Regex.Search
import Patrol.Proofs.Regex.Span
import Patrol.Proofs.Results
import Patrol.Proofs.Rule.Definition
import Patrol.Proofs.Session.Calls
import Patrol.Proofs.Session.Spelling
import Patrol.Proofs.Session.Strict
import Patrol.Proofs.Text.Blank
import Patrol.Proofs.Text.Digits
import Patrol.Proofs.Text.Encoding
import Patrol.Proofs.Text.Lossy
import Patrol.Proofs.Text.Returns
import Patrol.Proofs.Text.Split
import Patrol.Proofs.Text.Utf8
import Patrol.Proofs.Toml.Alike
import Patrol.Proofs.Toml.Comment
import Patrol.Proofs.Toml.Decode
import Patrol.Proofs.Toml.Keyed
import Patrol.Proofs.Toml.Reader
import Patrol.Proofs.Toml.Statement
import Patrol.Proofs.Toml.Text
import Patrol.Proofs.Tree.Added
import Patrol.Proofs.Tree.Folder
import Patrol.Proofs.Tree.Growth
import Patrol.Proofs.Tree.Path
import Patrol.Proofs.Tree.Resolve
import Patrol.Proofs.Tree.Spelled
import Patrol.Proofs.Tree.Standing
import Patrol.Proofs.Tree.Write
import Patrol.Proofs.Walk.Added
import Patrol.Proofs.Walk.Discovery
import Patrol.Proofs.Walk.Entered
import Patrol.Proofs.Walk.Exact
import Patrol.Proofs.Walk.Found
import Patrol.Proofs.Walk.Once
import Patrol.Proofs.Walk.Opens
import Patrol.Proofs.Walk.Order
import Patrol.Proofs.Walk.Roots
import Patrol.Proofs.Walk.Spelling
import Patrol.Proofs.Walk.Standard
import Patrol.Regex.Basic
import Patrol.Regex.Search
import Patrol.Repeated
import Patrol.Report
import Patrol.Rule.Basic
import Patrol.Rule.Definition
import Patrol.Rule.Describe
import Patrol.RuleId
import Patrol.Session
import Patrol.Text.Blank
import Patrol.Text.Digits
import Patrol.Text.Quoted
import Patrol.Text.Split
import Patrol.Text.Utf8
import Patrol.Toml.Decode
import Patrol.Toml.Number
import Patrol.Toml.Reader
import Patrol.Toml.Statement
import Patrol.Toml.Text
import Patrol.Toml.Value
import Patrol.Toml.Writer
import Patrol.Total
import Patrol.Tree.Error
import Patrol.Tree.Folder
import Patrol.Tree.Path
import Patrol.Tree.Resolve
import Patrol.Tree.Write
import Patrol.Unicode.CaseFolding
import Patrol.Unicode.Category
import Patrol.Unicode.Class
import Patrol.Unicode.Property
import Patrol.Unicode.Query
import Patrol.Unicode.Script
import Patrol.Unicode.ScriptExtension
import Patrol.Violation
import Patrol.Walk.Basic
import Patrol.Walk.Ignore
