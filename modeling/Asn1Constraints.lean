import Asn1Constraints.Binary64.Arithmetic
import Asn1Constraints.Binary64.Basic
import Asn1Constraints.Binary64.Decimal
import Asn1Constraints.Binary64.Rounding
import Asn1Constraints.Codec.Boundary
import Asn1Constraints.Codec.JsonLines
import Asn1Constraints.Command.Arguments
import Asn1Constraints.Command.Run
import Asn1Constraints.Command.Settings
import Asn1Constraints.Files.Path
import Asn1Constraints.Files.Store
import Asn1Constraints.Files.System
import Asn1Constraints.Instances.ChaCha
import Asn1Constraints.Instances.Default
import Asn1Constraints.Instances.Draw
import Asn1Constraints.Instances.Options
import Asn1Constraints.Instances.TestCases
import Asn1Constraints.Json.Basic
import Asn1Constraints.Json.Compare
import Asn1Constraints.Json.Fault
import Asn1Constraints.Json.Multiple
import Asn1Constraints.Json.Printer
import Asn1Constraints.Json.Scanner
import Asn1Constraints.JsonSchema.Basic
import Asn1Constraints.JsonSchema.Check
import Asn1Constraints.JsonSchema.Dialect
import Asn1Constraints.JsonSchema.Documents
import Asn1Constraints.JsonSchema.Fault
import Asn1Constraints.JsonSchema.Format
import Asn1Constraints.JsonSchema.Library
import Asn1Constraints.JsonSchema.Linked
import Asn1Constraints.JsonSchema.MetaSchema
import Asn1Constraints.JsonSchema.Reading
import Asn1Constraints.Loading.Issue
import Asn1Constraints.Loading.Load
import Asn1Constraints.Loading.Semantics
import Asn1Constraints.Location.Address
import Asn1Constraints.Location.Basic
import Asn1Constraints.Location.DomainName
import Asn1Constraints.Location.Host
import Asn1Constraints.Location.Percent
import Asn1Constraints.Location.Reader
import Asn1Constraints.Main
import Asn1Constraints.Pattern.Basic
import Asn1Constraints.Pattern.CharClass
import Asn1Constraints.Pattern.Ecma
import Asn1Constraints.Pattern.Machine
import Asn1Constraints.Pattern.Plain
import Asn1Constraints.Pattern.PlainReader
import Asn1Constraints.Pattern.Program
import Asn1Constraints.Pattern.Reader
import Asn1Constraints.Pattern.Search
import Asn1Constraints.Pattern.Space
import Asn1Constraints.Plan.Basic
import Asn1Constraints.Plan.Compile
import Asn1Constraints.Plan.Document
import Asn1Constraints.Plan.Path
import Asn1Constraints.Proofs.AcceptedModels
import Asn1Constraints.Proofs.AskedQuestions
import Asn1Constraints.Proofs.BatchTallies
import Asn1Constraints.Proofs.BoundFailures
import Asn1Constraints.Proofs.BoundaryCalls
import Asn1Constraints.Proofs.CaseSeeds
import Asn1Constraints.Proofs.CheckRuns
import Asn1Constraints.Proofs.CommandRuns
import Asn1Constraints.Proofs.CompiledModules
import Asn1Constraints.Proofs.Conformance
import Asn1Constraints.Proofs.DefaultInstances
import Asn1Constraints.Proofs.DocumentPointers
import Asn1Constraints.Proofs.DocumentQueue
import Asn1Constraints.Proofs.DrawnInstances
import Asn1Constraints.Proofs.EditedComponents
import Asn1Constraints.Proofs.ExactNumbering
import Asn1Constraints.Proofs.ExpandableTypes
import Asn1Constraints.Proofs.Failures
import Asn1Constraints.Proofs.FilledComponents
import Asn1Constraints.Proofs.FlatOutcomes
import Asn1Constraints.Proofs.FreshIds
import Asn1Constraints.Proofs.GuardedCalls
import Asn1Constraints.Proofs.HexDigits
import Asn1Constraints.Proofs.IndentedDocuments
import Asn1Constraints.Proofs.InstanceWalk
import Asn1Constraints.Proofs.JsonRoundTrip
import Asn1Constraints.Proofs.KeystreamAnswers
import Asn1Constraints.Proofs.LeastOrders
import Asn1Constraints.Proofs.LoadingWarnings
import Asn1Constraints.Proofs.ModelDocuments
import Asn1Constraints.Proofs.ModelLoading
import Asn1Constraints.Proofs.ModelSchema
import Asn1Constraints.Proofs.ModelTexts
import Asn1Constraints.Proofs.NameBytes
import Asn1Constraints.Proofs.Names
import Asn1Constraints.Proofs.NestingLevels
import Asn1Constraints.Proofs.NodeChecks
import Asn1Constraints.Proofs.NodePlaces
import Asn1Constraints.Proofs.Nodes
import Asn1Constraints.Proofs.NormalForms
import Asn1Constraints.Proofs.NumberedModules
import Asn1Constraints.Proofs.Occurrences
import Asn1Constraints.Proofs.PathTexts
import Asn1Constraints.Proofs.PlainChecks
import Asn1Constraints.Proofs.PlanDocuments
import Asn1Constraints.Proofs.PlanShapes
import Asn1Constraints.Proofs.PlannedChecks
import Asn1Constraints.Proofs.PostOrder
import Asn1Constraints.Proofs.PrintedDocuments
import Asn1Constraints.Proofs.PrintedInstances
import Asn1Constraints.Proofs.PrintedNumbers
import Asn1Constraints.Proofs.ReadValues
import Asn1Constraints.Proofs.Rearrangements
import Asn1Constraints.Proofs.ReferenceChains
import Asn1Constraints.Proofs.ReferenceOrder
import Asn1Constraints.Proofs.ReferenceReports
import Asn1Constraints.Proofs.ReportedCases
import Asn1Constraints.Proofs.Results
import Asn1Constraints.Proofs.RoundTrips
import Asn1Constraints.Proofs.RoundedMagnitudes
import Asn1Constraints.Proofs.RoundedSums
import Asn1Constraints.Proofs.SettledDocuments
import Asn1Constraints.Proofs.ShapeDocuments
import Asn1Constraints.Proofs.ShortestDecimals
import Asn1Constraints.Proofs.TracedChecks
import Asn1Constraints.Proofs.TypedInstances
import Asn1Constraints.Proofs.TypedValues
import Asn1Constraints.Proofs.UnambiguousPlaces
import Asn1Constraints.Proofs.Unfolding
import Asn1Constraints.Proofs.WellFormedModules
import Asn1Constraints.Proofs.WritableValues
import Asn1Constraints.Proofs.WrittenRecords
import Asn1Constraints.Text.Base64
import Asn1Constraints.Text.Hex
import Asn1Constraints.Text.NameSet
import Asn1Constraints.Text.Punycode
import Asn1Constraints.Text.Quoted
import Asn1Constraints.Text.Shown
import Asn1Constraints.Text.Split
import Asn1Constraints.Text.Utf8
import Asn1Constraints.Toml.Entries
import Asn1Constraints.Toml.Scalar
import Asn1Constraints.TypeModel.Basic
import Asn1Constraints.TypeModel.Bounds
import Asn1Constraints.TypeModel.Document
import Asn1Constraints.TypeModel.Error
import Asn1Constraints.TypeModel.Numbering
import Asn1Constraints.TypeModel.ReferenceGraph
import Asn1Constraints.TypeModel.Text
import Asn1Constraints.TypeModel.TypeTree
import Asn1Constraints.TypeModel.WellFormed
import Asn1Constraints.Unicode.Age
import Asn1Constraints.Unicode.Break
import Asn1Constraints.Unicode.Category
import Asn1Constraints.Unicode.CodePoints
import Asn1Constraints.Unicode.Composition
import Asn1Constraints.Unicode.Direction
import Asn1Constraints.Unicode.Folding
import Asn1Constraints.Unicode.Joining
import Asn1Constraints.Unicode.NameForm
import Asn1Constraints.Unicode.Property
import Asn1Constraints.Unicode.Script
import Asn1Constraints.Unicode.Trait
import Asn1Constraints.Validation.Batch
import Asn1Constraints.Validation.Rule
import Asn1Constraints.Validation.Walk
import Asn1Constraints.Value.Basic
import Asn1Constraints.Value.Document
import Asn1Constraints.Value.Normal
import Asn1Constraints.Value.Text
