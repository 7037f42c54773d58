import TypedDefaults.Anchor
import TypedDefaults.Classification
import TypedDefaults.CommandLine.Command
import TypedDefaults.CommandLine.KeyValue
import TypedDefaults.CommandLine.Migration
import TypedDefaults.CommandLine.Options
import TypedDefaults.CommandLine.Perform
import TypedDefaults.Configuration.Basic
import TypedDefaults.Configuration.Load
import TypedDefaults.Configuration.Reader
import TypedDefaults.Configuration.Section
import TypedDefaults.Configuration.Setting
import TypedDefaults.Console
import TypedDefaults.Decimal.Binary64
import TypedDefaults.Decimal.Lenient
import TypedDefaults.Decimal.Numeral
import TypedDefaults.Decimal.Shortest
import TypedDefaults.Document.Reader
import TypedDefaults.Document.Writer
import TypedDefaults.FieldName
import TypedDefaults.FieldTemplate
import TypedDefaults.Files.Path
import TypedDefaults.Files.Tree
import TypedDefaults.Holder
import TypedDefaults.Java.ClassType
import TypedDefaults.Java.Declaration
import TypedDefaults.Java.Description
import TypedDefaults.Java.Expression
import TypedDefaults.Java.Import
import TypedDefaults.Java.JavaType
import TypedDefaults.Java.Node
import TypedDefaults.Java.Position
import TypedDefaults.Java.Source
import TypedDefaults.Json.Reader
import TypedDefaults.Json.Token
import TypedDefaults.Json.Value
import TypedDefaults.Json.Writer
import TypedDefaults.Kind
import TypedDefaults.Literal.Conversion
import TypedDefaults.Literal.Split
import TypedDefaults.Main
import TypedDefaults.Message
import TypedDefaults.Occurrence
import TypedDefaults.Proofs.Accounts
import TypedDefaults.Proofs.Agreement
import TypedDefaults.Proofs.Analyses
import TypedDefaults.Proofs.Assembly
import TypedDefaults.Proofs.BinaryRounding
import TypedDefaults.Proofs.Bookkeeping
import TypedDefaults.Proofs.Captures
import TypedDefaults.Proofs.CharacterLiterals
import TypedDefaults.Proofs.CommaSplitting
import TypedDefaults.Proofs.CompanionTypes
import TypedDefaults.Proofs.Companions
import TypedDefaults.Proofs.Completion
import TypedDefaults.Proofs.Conservation
import TypedDefaults.Proofs.ContainerLiterals
import TypedDefaults.Proofs.Counterparts
import TypedDefaults.Proofs.DecimalLiterals
import TypedDefaults.Proofs.Deliveries
import TypedDefaults.Proofs.Depth
import TypedDefaults.Proofs.Evaluation
import TypedDefaults.Proofs.ExitCodes
import TypedDefaults.Proofs.Failures
import TypedDefaults.Proofs.FieldNames
import TypedDefaults.Proofs.Fields
import TypedDefaults.Proofs.FileTrees
import TypedDefaults.Proofs.FirstOccurrences
import TypedDefaults.Proofs.Following
import TypedDefaults.Proofs.FreshNames
import TypedDefaults.Proofs.HolderUsage
import TypedDefaults.Proofs.Homes
import TypedDefaults.Proofs.ImportOrder
import TypedDefaults.Proofs.Interleaving
import TypedDefaults.Proofs.Isolation
import TypedDefaults.Proofs.JavaIdentifiers
import TypedDefaults.Proofs.Lexemes
import TypedDefaults.Proofs.LiteralRange
import TypedDefaults.Proofs.Migration
import TypedDefaults.Proofs.NameSequences
import TypedDefaults.Proofs.NamesApart
import TypedDefaults.Proofs.Nesting
import TypedDefaults.Proofs.NodeSchema
import TypedDefaults.Proofs.Preservation
import TypedDefaults.Proofs.Reapplication
import TypedDefaults.Proofs.Rebuilding
import TypedDefaults.Proofs.Recording
import TypedDefaults.Proofs.References
import TypedDefaults.Proofs.ReferredFields
import TypedDefaults.Proofs.Repetition
import TypedDefaults.Proofs.Reports
import TypedDefaults.Proofs.Requalification
import TypedDefaults.Proofs.Restoring
import TypedDefaults.Proofs.Returning
import TypedDefaults.Proofs.RoundTrip
import TypedDefaults.Proofs.SettingNames
import TypedDefaults.Proofs.SharedPaths
import TypedDefaults.Proofs.Sharing
import TypedDefaults.Proofs.StringTokens
import TypedDefaults.Proofs.Summaries
import TypedDefaults.Proofs.Switches
import TypedDefaults.Proofs.Telling
import TypedDefaults.Proofs.Tolerance
import TypedDefaults.Proofs.TraceNesting
import TypedDefaults.Proofs.TracedRuns
import TypedDefaults.Proofs.VisitorCalls
import TypedDefaults.Proofs.Visits
import TypedDefaults.Proofs.WholeLiterals
import TypedDefaults.Relocation
import TypedDefaults.Run
import TypedDefaults.Scan
import TypedDefaults.Store
import TypedDefaults.Synthesis
import TypedDefaults.Text.Blank
import TypedDefaults.Text.CodeRanges
import TypedDefaults.Text.Digit
import TypedDefaults.Text.Identifier
import TypedDefaults.Text.LowerCase
import TypedDefaults.Text.Parts
import TypedDefaults.Text.Printable
import TypedDefaults.Text.Quoted
import TypedDefaults.Text.Word
import TypedDefaults.Toml.Reader
import TypedDefaults.Toml.Scalar
import TypedDefaults.Toml.Value
import TypedDefaults.Trace
import TypedDefaults.Validation.Checked
import TypedDefaults.Validation.Truth
import TypedDefaults.Work
