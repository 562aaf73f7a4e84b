import Predictive.Main
import Predictive.Proofs.FollowReach
import Predictive.Proofs.FollowEquations
import Predictive.Proofs.FollowStacks
import Predictive.Proofs.Derivation
import Predictive.Proofs.LeadExact
import Predictive.Proofs.FollowContext
import Predictive.Proofs.TextbookSets
import Predictive.Proofs.SelectionSets
import Predictive.Proofs.Lookahead
import Predictive.Proofs.Unambiguity
import Predictive.Proofs.Views
import Predictive.Proofs.SkeletonParts
import Predictive.Proofs.SkeletonRuns
import Predictive.Proofs.PredictiveParsing
import Predictive.Proofs.LeftRecursion
import Predictive.Proofs.Verdict
import Predictive.Proofs.BlankRuns
import Predictive.Proofs.Cuts
import Predictive.Proofs.RuleLines
import Predictive.Proofs.RuleSyntax
import Predictive.Proofs.PlainLines
import Predictive.Proofs.LogicalLines
import Predictive.Proofs.NormalLayout
import Predictive.Proofs.RoundTrip
import Predictive.Proofs.Relayout
import Predictive.Proofs.Readers
import Predictive.Proofs.SkeletonOutcome
import Predictive.Proofs.Listings
import Predictive.Proofs.SkeletonOutline
import Predictive.Proofs.SkeletonText
import Predictive.Proofs.PrototypeHeader
import Predictive.Proofs.Places
import Predictive.Proofs.FileEffects
import Predictive.Proofs.ReportLines
import Predictive.Proofs.Dependence
import Predictive.Proofs.Reordering
import Predictive.Proofs.StartRule
import Predictive.Proofs.Redefinition
import Predictive.Proofs.IdentifierCharacters
import Predictive.Proofs.ProcedureNames
import Predictive.Proofs.StackDiscipline
