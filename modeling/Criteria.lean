import Criteria.Session.Basic
import Criteria.Stock.Host
import Criteria.Fault.Report
import Criteria.Proofs.Config.Description
import Criteria.Proofs.Criterion.Contents
import Criteria.Proofs.Criterion.Nesting
import Criteria.Proofs.Criterion.Evolution
import Criteria.Proofs.Clause.Outcome
import Criteria.Proofs.Clause.ClosedForm
import Criteria.Proofs.Clause.Safety
import Criteria.Proofs.Clause.Labelling
import Criteria.Proofs.Config.Writes
import Criteria.Proofs.Criterion.LastWrites
import Criteria.Proofs.Criterion.Chaining
import Criteria.Proofs.Clause.Catalogs
import Criteria.Proofs.Clause.Kinds
import Criteria.Proofs.Labels.Atomicity
import Criteria.Proofs.Labels.Labellers
import Criteria.Proofs.Config.Validity
import Criteria.Proofs.Criterion.Precedence
import Criteria.Proofs.Criterion.Rebuilding
import Criteria.Proofs.Labels.Bindings
import Criteria.Proofs.Labels.Repetition
import Criteria.Proofs.Session.Evolution
import Criteria.Proofs.Session.Bindings
import Criteria.Proofs.Labels.Queries
import Criteria.Proofs.Labels.Documents
import Criteria.Proofs.Labels.Batches
import Criteria.Proofs.Labels.Mixtures
import Criteria.Proofs.Labels.Availability
import Criteria.Proofs.Config.Attributes
import Criteria.Proofs.Criterion.Defaults
import Criteria.Proofs.Clause.Transforms
import Criteria.Proofs.Config.Respelling
import Criteria.Proofs.Criterion.Inheritance
import Criteria.Proofs.Criterion.Respelling
import Criteria.Proofs.Text.Lowercase
import Criteria.Proofs.Text.Similarity
import Criteria.Proofs.Text.CloseMatches
import Criteria.Proofs.Clause.LetterCase
import Criteria.Proofs.Labels.Keyless
import Criteria.Proofs.Criterion.Ranges
import Criteria.Proofs.Criterion.Cardinality
import Criteria.Proofs.Fault.Suggestions
