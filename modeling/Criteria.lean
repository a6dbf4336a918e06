import Criteria.Assertion
import Criteria.Description.Predicate
import Criteria.Failure.Aggregate
import Criteria.Proofs.Evaluation.Bounds
import Criteria.Proofs.Evaluation.Classical
import Criteria.Proofs.Evaluation.Eager
import Criteria.Proofs.Evaluation.Equals
import Criteria.Proofs.Evaluation.Flat
import Criteria.Proofs.Evaluation.Mismatches
import Criteria.Proofs.Evaluation.Negation
import Criteria.Proofs.Evaluation.NegationNormal
import Criteria.Proofs.Evaluation.Reordering
import Criteria.Proofs.Evaluation.Replay
import Criteria.Proofs.Evaluation.Summary
import Criteria.Proofs.Evaluation.Unvisited
import Criteria.Proofs.Evaluation.Visit
import Criteria.Proofs.Failure.Elements
import Criteria.Proofs.Failure.Message
import Criteria.Proofs.Predicate.Equality
import Criteria.Proofs.Predicate.NormalForm
import Criteria.Proofs.Predicate.Position
import Criteria.Proofs.Predicate.Rebuilding
import Criteria.Proofs.Rendering.Holes
import Criteria.Proofs.Rendering.Lines
import Criteria.Proofs.Rendering.Readable
import Criteria.Proofs.Rendering.Separation
import Criteria.Proofs.Session
import Criteria.Proofs.Text.Escapes
import Criteria.Proofs.Value.Exchange
import Criteria.Proofs.Value.Reading
import Criteria.Rendering.Format
import Criteria.Value.Exchange
