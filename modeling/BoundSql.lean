import BoundSql.Backoff.Strategy
import BoundSql.Program.Build
import BoundSql.Term.Group
import BoundSql.Transaction.Steps
import BoundSql.Proofs.Filling
import BoundSql.Proofs.ValueIndependence
import BoundSql.Proofs.BooleanGrammar
import BoundSql.Proofs.Phrases
import BoundSql.Proofs.Predicates
import BoundSql.Proofs.ConditionMeaning
import BoundSql.Proofs.BoundArguments
import BoundSql.Proofs.ClauseOrder
import BoundSql.Proofs.ClauseValues
import BoundSql.Proofs.Exchanges
import BoundSql.Proofs.RetryHistory
import BoundSql.Proofs.Commits
import BoundSql.Proofs.ChangeContributions
import BoundSql.Proofs.CompletedPredicates
import BoundSql.Proofs.WovenPredicates
import BoundSql.Proofs.FilterPresence
import BoundSql.Proofs.RelocatedParts
import BoundSql.Proofs.RelocatedChanges
import BoundSql.Proofs.Substatements
import BoundSql.Proofs.Sentences
import BoundSql.Proofs.SelectSentences
import BoundSql.Proofs.RenderedConditions
import BoundSql.Proofs.RenderedClauses
import BoundSql.Proofs.SelectGrammar
import BoundSql.Proofs.RetryOutcomes
import BoundSql.Proofs.TransactionOutcomes
import BoundSql.Proofs.IndependentCalls
import BoundSql.Proofs.Rearrangement
import BoundSql.Proofs.ScannedPlaceholders
import BoundSql.Proofs.StringConstants
import BoundSql.Proofs.ThinnedRows
import BoundSql.Proofs.UnionRows
import BoundSql.Proofs.ValueRows
import BoundSql.Proofs.AssignedPairs
import BoundSql.Proofs.DroppedClauses
import BoundSql.Proofs.ShorterTexts
import BoundSql.Proofs.UnattachedJoins
import BoundSql.Proofs.UpdateWheres
import BoundSql.Proofs.AssignedSides
import BoundSql.Proofs.ConflictFilters
import BoundSql.Proofs.EmptyParentheses
import BoundSql.Proofs.ReshapedLists
import BoundSql.Proofs.Wrappers
import BoundSql.Proofs.ClassifiedPayloads
import BoundSql.Proofs.RespeltConditions
import BoundSql.Proofs.RedundantClosures
import BoundSql.Proofs.DelayBounds
import BoundSql.Proofs.AnswerReadings
import BoundSql.Proofs.ReportedErrors
import BoundSql.Proofs.DayNumbers
import BoundSql.Proofs.WrittenTimes
import BoundSql.Proofs.BalancedTexts
import BoundSql.Proofs.BalancedClauses
import BoundSql.Proofs.BalancedPrograms
import BoundSql.Proofs.EnclosedStatements
import BoundSql.Proofs.DelimitedConditions
