import TraversalPlanner.Number.Style
import TraversalPlanner.Text.Blank
import TraversalPlanner.Text.Hidden
import TraversalPlanner.Text.Letter
import TraversalPlanner.Json.Printer
import TraversalPlanner.Text.Quoted
import TraversalPlanner.Json.Reader
import TraversalPlanner.Number.Scaling
import TraversalPlanner.Json.Decoding
import TraversalPlanner.Sorted.KeyOrder
import TraversalPlanner.Sorted.SortedMap
import TraversalPlanner.Sorted.SortedSet
import TraversalPlanner.Pattern.Clause
import TraversalPlanner.Pattern.Document
import TraversalPlanner.Plan.CostModel
import TraversalPlanner.Plan.FragmentSet
import TraversalPlanner.Plan.Lowering
import TraversalPlanner.Plan.Greedy
import TraversalPlanner.Plan.Document
import TraversalPlanner.Schema.Concept
import TraversalPlanner.Schema.Consistency
import TraversalPlanner.Json.Loading
import TraversalPlanner.Regex.Validity
import TraversalPlanner.Schema.Document
import TraversalPlanner.Schema.Validation
import TraversalPlanner.Cache.Config
import TraversalPlanner.Cache.Key
import TraversalPlanner.Cache.PlanCache
import TraversalPlanner.Planner.Config
import TraversalPlanner.Planner.Error
import TraversalPlanner.Planner.Insertion
import TraversalPlanner.Planner.Planner
import TraversalPlanner.Query.DryRun
import TraversalPlanner.Query.MatchQuery
import TraversalPlanner.Schema.Movies
import TraversalPlanner.Json.Ascii
import TraversalPlanner.Regex.Mode
import TraversalPlanner.Proofs.Plan.CandidateOrder
import TraversalPlanner.Proofs.Plan.ArenaCandidates
import TraversalPlanner.Proofs.Plan.GreedyRun
import TraversalPlanner.Proofs.Plan.LoweredSets
import TraversalPlanner.Proofs.Plan.Registration
import TraversalPlanner.Proofs.Plan.GreedyCompleteness
import TraversalPlanner.Proofs.Plan.Representation
import TraversalPlanner.Proofs.Number.RoundingInterval
import TraversalPlanner.Proofs.Number.ShortestDecimal
import TraversalPlanner.Proofs.Number.NumeralText
import TraversalPlanner.Proofs.Number.WrittenNumber
import TraversalPlanner.Proofs.Number.NumberCharacters
import TraversalPlanner.Proofs.Pattern.CanonicalPattern
import TraversalPlanner.Proofs.Text.Signatures
import TraversalPlanner.Proofs.Pattern.SignatureReading
import TraversalPlanner.Proofs.Plan.CanonicalFragment
import TraversalPlanner.Proofs.Plan.CanonicalPlanning
import TraversalPlanner.Proofs.Cache.Contents
import TraversalPlanner.Proofs.Planner.Transparency
import TraversalPlanner.Proofs.Pattern.SignatureEquality
import TraversalPlanner.Proofs.Schema.Acceptance
import TraversalPlanner.Proofs.Schema.LabelPlaces
import TraversalPlanner.Proofs.Schema.WellFormedPattern
import TraversalPlanner.Proofs.Plan.FragmentNames
import TraversalPlanner.Proofs.Plan.PlainFragments
import TraversalPlanner.Proofs.Plan.WaitingVariables
import TraversalPlanner.Proofs.Plan.ConstraintOrder
import TraversalPlanner.Proofs.Cache.Callers
import TraversalPlanner.Proofs.Cache.SingleCompilation
import TraversalPlanner.Proofs.Plan.LoweringRun
import TraversalPlanner.Proofs.Plan.LoweredStatements
import TraversalPlanner.Proofs.Plan.InventedVariables
import TraversalPlanner.Proofs.Json.NumeralReading
import TraversalPlanner.Proofs.Json.StringReading
import TraversalPlanner.Proofs.Json.ValueReading
import TraversalPlanner.Proofs.Json.PrettyReading
import TraversalPlanner.Proofs.Schema.Resolution
import TraversalPlanner.Proofs.Schema.DocumentReading
import TraversalPlanner.Proofs.Schema.OwnLabels
import TraversalPlanner.Proofs.Json.CompactReading
import TraversalPlanner.Proofs.Json.DecodedValues
import TraversalPlanner.Proofs.Pattern.PatternReading
import TraversalPlanner.Proofs.Plan.WaitingCycles
import TraversalPlanner.Proofs.Plan.StallDiagnosis
import TraversalPlanner.Proofs.Cache.SequentialUse
import TraversalPlanner.Proofs.Cache.Stamps
import TraversalPlanner.Proofs.Cache.Recency
import TraversalPlanner.Proofs.Cache.FailedCompilation
import TraversalPlanner.Proofs.Schema.Supertypes
import TraversalPlanner.Proofs.Schema.Inheritance
import TraversalPlanner.Proofs.Schema.ConsistentSchema
import TraversalPlanner.Proofs.Planner.PermittedPatterns
import TraversalPlanner.Proofs.Cache.Accounting
import TraversalPlanner.Proofs.Plan.LoweredVariables
import TraversalPlanner.Proofs.Plan.PlannedVariables
import TraversalPlanner.Proofs.Plan.AnchoredCosts
import TraversalPlanner.Proofs.Plan.TracedRounds
import TraversalPlanner.Proofs.Planner.OutdatedPlans
import TraversalPlanner.Proofs.Plan.Agreement
import TraversalPlanner.Proofs.Plan.RepeatedClauses
import TraversalPlanner.Proofs.Query.AnswerStreams
import TraversalPlanner.Proofs.Query.Projections
import TraversalPlanner.Proofs.Query.BoundAnswers
import TraversalPlanner.Proofs.Plan.Ownership
import TraversalPlanner.Proofs.Schema.Ancestors
import TraversalPlanner.Proofs.Plan.NameEquality
