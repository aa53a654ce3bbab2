import Rollout.Configuration
import Rollout.Evaluation.Evaluator
import Rollout.Impression.Manager
import Rollout.Json.Writer
import Rollout.Proofs.Evaluation.Many
import Rollout.Proofs.Evaluation.Unmemoized
import Rollout.Proofs.Impression.Storage
import Rollout.Proofs.Impression.PreviousTime
import Rollout.Proofs.Evaluation.Steps
import Rollout.Proofs.Evaluation.Termination
import Rollout.Proofs.Impression.BloomFilter
import Rollout.Proofs.Impression.Tracking
import Rollout.Proofs.Impression.KeyCount
import Rollout.Proofs.Evaluation.Calls
import Rollout.Proofs.Evaluation.Dependencies
import Rollout.Proofs.Evaluation.Reachable
import Rollout.Proofs.Evaluation.Failure
import Rollout.Proofs.Evaluation.Events
import Rollout.Proofs.Evaluation.Once
import Rollout.Proofs.Impression.Batches
import Rollout.Proofs.Impression.Modes
import Rollout.Proofs.Impression.FilterSize
import Rollout.Proofs.Impression.FilterContents
import Rollout.Proofs.Json.RoundTrip
import Rollout.Proofs.Definition.RoundTrip
import Rollout.Proofs.Definition.Compilation
import Rollout.Proofs.Json.Field
import Rollout.Proofs.Definition.Unsupported
import Rollout.Proofs.Definition.Loading
import Rollout.Proofs.Evaluation.Log
import Rollout.Proofs.Evaluation.OwnDefinition
import Rollout.Proofs.Impression.Counts
import Rollout.Proofs.Evaluation.Traffic
import Rollout.Proofs.Impression.Recognition
import Rollout.Proofs.Impression.QueueFull
import Rollout.Proofs.Impression.KnownKeys
import Rollout.Proofs.Evaluation.Decision
import Rollout.Proofs.Semver.NormalForm
import Rollout.Proofs.Semver.Precedence
import Rollout.Proofs.Text.ByteOrder
import Rollout.Proofs.Semver.PlainOrder
import Rollout.Proofs.Text.Trim
import Rollout.Proofs.Semver.Grammar
import Rollout.Proofs.Semver.Canonical
import Rollout.Proofs.Bucketing
import Rollout.Proofs.Semver.Metadata
import Rollout.Proofs.Matcher.Outcome
import Rollout.Proofs.Matcher.Interval
import Rollout.Proofs.Matcher.Composite
import Rollout.Proofs.Matcher.Sets
import Rollout.Proofs.Traversal
import Rollout.Proofs.Hash.Bytes
import Rollout.Proofs.Hash.Indexed
import Rollout.Proofs.Definition.Conditions
import Rollout.Proofs.Json.Brackets
import Rollout.Proofs.Definition.Alone
import Rollout.Proofs.Decimal.Finite
import Rollout.Proofs.Matcher.Unanswerable
import Rollout.Proofs.Text.CodeUnits
import Rollout.Proofs.Hash.Polynomial
import Rollout.Proofs.Hash.Lossless
import Rollout.Proofs.Hash.Injective
import Rollout.Proofs.Impression.Intact
import Rollout.Proofs.Evaluation.Frame
