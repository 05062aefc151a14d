import Conform.Assoc
import Conform.Attempt
import Conform.Batch
import Conform.Binary64
import Conform.Binary64.Shortest
import Conform.Builder.Array
import Conform.Builder.Define
import Conform.Builder.Hash
import Conform.Builder.Tuple
import Conform.CharSet
import Conform.Command.Describe
import Conform.Command.Outcome
import Conform.Command.Validate
import Conform.CommandLine.Basic
import Conform.CommandLine.Given
import Conform.CommandLine.Help
import Conform.CommandLine.Invocation
import Conform.CommandLine.Reader
import Conform.Container
import Conform.Definition
import Conform.ErrorMap
import Conform.Failure
import Conform.Files
import Conform.Json.Basic
import Conform.Json.Double
import Conform.Json.Fault
import Conform.Json.Number
import Conform.Json.Parser
import Conform.Json.Printer
import Conform.Json.Token
import Conform.Logging.Basic
import Conform.Logging.Filter
import Conform.Main
import Conform.Numeric
import Conform.Options
import Conform.Output.Color
import Conform.Output.Console
import Conform.Output.Format
import Conform.Output.Table
import Conform.Path
import Conform.Pattern.Basic
import Conform.Pattern.Bracket
import Conform.Pattern.Class
import Conform.Pattern.Escape
import Conform.Pattern.Parser
import Conform.Pattern.Size
import Conform.Power
import Conform.Program
import Conform.Proofs.Outcome
import Conform.Property
import Conform.Record.Basic
import Conform.Record.Json
import Conform.Record.Yaml
import Conform.Registry
import Conform.Report.Outline
import Conform.Report.Summary
import Conform.SchemaError
import Conform.Settings.Basic
import Conform.Settings.Load
import Conform.Settings.Read
import Conform.Source.Error
import Conform.Source.Format
import Conform.Source.Read
import Conform.Text.Blank
import Conform.Text.Case
import Conform.Text.CaseTable
import Conform.Text.Hex
import Conform.Text.Key
import Conform.Text.Lines
import Conform.Text.Progression
import Conform.Text.Similarity
import Conform.Unicode.Age
import Conform.Unicode.Break
import Conform.Unicode.Category
import Conform.Unicode.Folding
import Conform.Unicode.Listed
import Conform.Unicode.Property
import Conform.Unicode.Script
import Conform.Unicode.ScriptExtension
import Conform.Unicode.Value
import Conform.Validator
import Conform.Yaml.Character
import Conform.Yaml.Content
import Conform.Yaml.Cursor
import Conform.Yaml.Document
import Conform.Yaml.Fault
import Conform.Yaml.Grammar
import Conform.Yaml.Json
import Conform.Yaml.Node
import Conform.Yaml.Printer
import Conform.Yaml.Scalar.Block
import Conform.Yaml.Scalar.Folding
import Conform.Yaml.Scalar.Meaning
import Conform.Yaml.Scalar.Plain
import Conform.Yaml.Scalar.Quoted
import Conform.Yaml.Scalar.Writing
import Conform.Yaml.Token.Basic
import Conform.Yaml.Token.Scan
import Conform.Yaml.Token.Tag
import Conform.Yaml.Value
import Conform.Proofs.Checking
import Conform.Proofs.Conformance
import Conform.Proofs.Faults
import Conform.Proofs.Judgement
import Conform.Proofs.Building
import Conform.Proofs.Definitions
import Conform.Proofs.Leaves
import Conform.Proofs.Remainder
import Conform.Proofs.Programs
import Conform.Proofs.Agreement
import Conform.Proofs.Loosening
import Conform.Proofs.Batches
import Conform.Proofs.Runs
import Conform.Proofs.Findings
import Conform.Proofs.Names
import Conform.Proofs.OptionSets
import Conform.Proofs.ErrorTrees
import Conform.Proofs.Prefixes
import Conform.Proofs.Equality
import Conform.Proofs.EqualDocuments
import Conform.Proofs.SchemaOrder
import Conform.Proofs.OptionOrder
import Conform.Proofs.DefinitionOrder
import Conform.Proofs.Drafts
import Conform.Proofs.Modes
import Conform.Proofs.Shapes
import Conform.Proofs.Registrations
import Conform.Proofs.Kinds
import Conform.Proofs.Availability
import Conform.Proofs.Positions
import Conform.Proofs.Loose
import Conform.Proofs.Anchors
import Conform.Proofs.Occupants
import Conform.Proofs.Keys
import Conform.Proofs.Shorthand
import Conform.Proofs.HashReports
import Conform.Proofs.ArrayReports
import Conform.Proofs.Uniqueness
import Conform.Proofs.Exactness
import Conform.Proofs.Reserved
import Conform.Proofs.Rounding
import Conform.Proofs.Collisions
import Conform.Proofs.NameStyles
import Conform.Proofs.ErrorEncodings
import Conform.Proofs.LeafChecks
import Conform.Proofs.Renormalizing
import Conform.Proofs.Precedence
import Conform.Proofs.Tokens
import Conform.Proofs.Spellings
import Conform.Proofs.DocumentLines
