import PathSchema.Text.Decimal
import PathSchema.Text.Position
import PathSchema.Token
import PathSchema.Part
import PathSchema.Part.Reading
import PathSchema.Unicode.Table
import PathSchema.Unicode.Category
import PathSchema.Unicode.Script
import PathSchema.Unicode.Age
import PathSchema.Unicode.CaseFolding
import PathSchema.Unicode.Binary
import PathSchema.Unicode.Property
import PathSchema.Pattern.CharClass
import PathSchema.Pattern.Regex
import PathSchema.Pattern.Flags
import PathSchema.Pattern.Escape
import PathSchema.Pattern.Bracket
import PathSchema.Pattern.Reading
import PathSchema.Pattern.Library
import PathSchema.Pattern
import PathSchema.Pattern.Engine
import PathSchema.Path
import PathSchema.Modifier
import PathSchema.Fault
import PathSchema.Constraint
import PathSchema.Schema
import PathSchema.Store
import PathSchema.Evaluation
import PathSchema.Extraction
import PathSchema.Text.Hexadecimal
import PathSchema.Text.Quoted
import PathSchema.Document
import PathSchema.Json.Printing
import PathSchema.Text.Numeral
import PathSchema.Yaml.Sense
import PathSchema.Yaml.Printing
import PathSchema.Report
import PathSchema.Console
import PathSchema.Failure
import PathSchema.Placeholder
import PathSchema.Logging
import PathSchema.CommandLine.Grammar
import PathSchema.CommandLine.Reading
import PathSchema.CommandLine
import PathSchema.Yaml.Character
import PathSchema.Yaml.Token
import PathSchema.Yaml.Token.Scalar
import PathSchema.Yaml.Token.Property
import PathSchema.Yaml.Token.Scanning
import PathSchema.Yaml.Node
import PathSchema.Yaml.Node.Alias
import PathSchema.Json.Reading
import PathSchema.Toml.Scalar
import PathSchema.Toml.Table
import PathSchema.Toml.Reading
import PathSchema.FileTree
import PathSchema.Configuration
import PathSchema.Configuration.Format
import PathSchema.Configuration.Loading
import PathSchema.Harvest
import PathSchema.Inspection
import PathSchema.Validation
import PathSchema.Execution
import PathSchema.Main
import PathSchema.Proofs.Evaluation.Plain
import PathSchema.Proofs.Evaluation.Transparency
import PathSchema.Proofs.Compilation
import PathSchema.Proofs.Evaluation.Result
import PathSchema.Proofs.Language
import PathSchema.Proofs.Evaluation.Depth
import PathSchema.Proofs.Evaluation.Termination
import PathSchema.Proofs.Evaluation.Session
import PathSchema.Proofs.BrokenMember
import PathSchema.Proofs.Grammar
import PathSchema.Proofs.Reading
import PathSchema.Proofs.Scanning.Joined
import PathSchema.Proofs.Scanning.Written
import PathSchema.Proofs.Scanning.Cut
import PathSchema.Proofs.Scanning.Tiling
import PathSchema.Proofs.RoundTrip
import PathSchema.Proofs.Joining
import PathSchema.Proofs.FixedWidth
import PathSchema.Proofs.Pattern.Matching
import PathSchema.Proofs.Pattern.Front
import PathSchema.Proofs.Pattern.Escapes
import PathSchema.Proofs.Pattern.Brackets
import PathSchema.Proofs.Pattern.Groups
import PathSchema.Proofs.Pattern.Steps
import PathSchema.Proofs.Pattern.Enclosed
import PathSchema.Proofs.Pattern.Documentation
import PathSchema.Proofs.Pattern.Engine
import PathSchema.Proofs.Pattern.Anchored
import PathSchema.Proofs.Evaluation.Refusal
import PathSchema.Proofs.FirstFault
import PathSchema.Proofs.CompileFault
import PathSchema.Proofs.Evaluation.Dialogue
import PathSchema.Proofs.Dependence
import PathSchema.Proofs.Path
import PathSchema.Proofs.Substitution
import PathSchema.Proofs.Extraction
import PathSchema.Proofs.ViablePrefix
import PathSchema.Proofs.Pool
import PathSchema.Proofs.Settled
import PathSchema.Proofs.WildcardChain
import PathSchema.Proofs.TightValues
import PathSchema.Proofs.Extraction.Alignment
import PathSchema.Proofs.Evaluation.Locality
import PathSchema.Proofs.SetOutcome
import PathSchema.Proofs.CompileRoutes
import PathSchema.Proofs.Placeholder
import PathSchema.Proofs.Caret
import PathSchema.Proofs.RedundantSlashes
import PathSchema.Proofs.PrefixStripping
import PathSchema.Proofs.Description
import PathSchema.Proofs.UnboundedWildcard
import PathSchema.Proofs.Inputs
import PathSchema.Proofs.Batch
import PathSchema.Proofs.PositionOrder
