import StableTypes.CallableReport
import StableTypes.CallableReport.Writer
import StableTypes.Cascade.Printer
import StableTypes.Cascade.Summary
import StableTypes.Cascade.Tree
import StableTypes.Cascade.Walk
import StableTypes.Cascade.Writer
import StableTypes.Catalog.Basic
import StableTypes.Catalog.Reader
import StableTypes.Catalog.Shipped
import StableTypes.Classification
import StableTypes.Classification.Writer
import StableTypes.Classifier.Guarded
import StableTypes.Classifier.Reason
import StableTypes.Classifier.Rules
import StableTypes.CommandLine.Arguments
import StableTypes.CommandLine.Report
import StableTypes.CommandLine.Request
import StableTypes.CommandLine.Session
import StableTypes.CommandLine.Suggestion
import StableTypes.Declaration
import StableTypes.Declaration.Writer
import StableTypes.Fault
import StableTypes.Files.Basic
import StableTypes.Files.Path
import StableTypes.Files.ProjectRoot
import StableTypes.Files.Tree
import StableTypes.Guard
import StableTypes.Json.Basic
import StableTypes.Json.Parser
import StableTypes.Json.Printer
import StableTypes.Log.Basic
import StableTypes.Log.Printer
import StableTypes.Main
import StableTypes.Number.Basic
import StableTypes.Number.Decimal
import StableTypes.Number.Leading
import StableTypes.Pattern.Glob
import StableTypes.Pattern.Lines
import StableTypes.Pattern.Matcher
import StableTypes.Policy
import StableTypes.ProgramModel
import StableTypes.Proofs.AliasTransparency
import StableTypes.Proofs.AlikeOutcomes
import StableTypes.Proofs.AskedParts
import StableTypes.Proofs.BuiltReferences
import StableTypes.Proofs.CallPaths
import StableTypes.Proofs.CallableOutcome
import StableTypes.Proofs.CanonicalText
import StableTypes.Proofs.CheckedReading
import StableTypes.Proofs.CombinedLeaves
import StableTypes.Proofs.CombinedMembers
import StableTypes.Proofs.CombinedShape
import StableTypes.Proofs.CombinedVerdict
import StableTypes.Proofs.ComposedSubstitution
import StableTypes.Proofs.Degradation
import StableTypes.Proofs.DepthIndependence
import StableTypes.Proofs.FaultingRun
import StableTypes.Proofs.GlobExpression
import StableTypes.Proofs.GlobMatching
import StableTypes.Proofs.GlobMeaning
import StableTypes.Proofs.GlobRewriting
import StableTypes.Proofs.GuardBalance
import StableTypes.Proofs.GuardCalls
import StableTypes.Proofs.GuardedLeast
import StableTypes.Proofs.GuardedOutcome
import StableTypes.Proofs.IndependentInputs
import StableTypes.Proofs.InterruptedWalk
import StableTypes.Proofs.IsolatedFailures
import StableTypes.Proofs.NullableForms
import StableTypes.Proofs.OrderedTable
import StableTypes.Proofs.OutcomeKeys
import StableTypes.Proofs.OutcomeLeaves
import StableTypes.Proofs.OutcomeOrigin
import StableTypes.Proofs.PatternFiles
import StableTypes.Proofs.PrintedTree
import StableTypes.Proofs.PropertyOrder
import StableTypes.Proofs.ReadableText
import StableTypes.Proofs.RecordedAnalysis
import StableTypes.Proofs.ReferenceGrammar
import StableTypes.Proofs.RuleRelation
import StableTypes.Proofs.RuleVerdict
import StableTypes.Proofs.RuledOutcome
import StableTypes.Proofs.SettledVerdict
import StableTypes.Proofs.SignatureStack
import StableTypes.Proofs.SnapshotGrammar
import StableTypes.Proofs.SnapshotGraph
import StableTypes.Proofs.SnapshotWalk
import StableTypes.Proofs.StableJustification
import StableTypes.Proofs.StrongSkipping
import StableTypes.Proofs.TextBoundaries
import StableTypes.Proofs.TreeChange
import StableTypes.Proofs.TreeFigures
import StableTypes.Proofs.TreeOrder
import StableTypes.Proofs.TreePositions
import StableTypes.Proofs.TreePrefix
import StableTypes.Proofs.TreeSummary
import StableTypes.Proofs.TypeGraph
import StableTypes.Proofs.UncutOutcome
import StableTypes.Proofs.UnguardedEvaluation
import StableTypes.Proofs.UniqueReading
import StableTypes.Proofs.UnstableWitness
import StableTypes.Proofs.VerdictMonotonicity
import StableTypes.Proofs.VerdictOrder
import StableTypes.Proofs.VouchedTypes
import StableTypes.Proofs.WalkStep
import StableTypes.Proofs.WrittenReferences
import StableTypes.Regex.Basic
import StableTypes.Regex.Matching
import StableTypes.Regex.Parser
import StableTypes.Regex.Search
import StableTypes.Settings.Basic
import StableTypes.Settings.EnvironmentFile
import StableTypes.Settings.Reader
import StableTypes.Snapshot.Basic
import StableTypes.Snapshot.Reader
import StableTypes.Snapshot.Writer
import StableTypes.Table
import StableTypes.Text.Blank
import StableTypes.Text.Parts
import StableTypes.Text.Units
import StableTypes.TypeRef.Basic
import StableTypes.TypeRef.Builder
import StableTypes.TypeRef.Render
import StableTypes.TypeRef.Shape
import StableTypes.TypeRef.Substitution
import StableTypes.Validation
