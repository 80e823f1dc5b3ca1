import RecordRules.Proofs.Document.Grammar
import RecordRules.Proofs.Document.RoundTrip
import RecordRules.Proofs.Evaluation.Concatenation
import RecordRules.Proofs.Evaluation.Faults
import RecordRules.Proofs.Evaluation.Missing
import RecordRules.Proofs.Evaluation.Plain
import RecordRules.Workspace.Command
import RecordRules.Proofs.Document.Containment
import RecordRules.Proofs.Predicate.Coercion
import RecordRules.Proofs.Evaluation.Interchange
import RecordRules.Proofs.Evaluation.Transcript
import RecordRules.Proofs.Evaluation.Reordering
import RecordRules.Proofs.Evaluation.Representation
import RecordRules.Proofs.Workspace.Building
import RecordRules.Proofs.Document.Declaration
import RecordRules.Proofs.Evaluation.Blame
import RecordRules.Proofs.Evaluation.Walking
import RecordRules.Proofs.Predicate.Ordering
import RecordRules.Proofs.Value.Attribute
import RecordRules.Proofs.Predicate.Exclusion
import RecordRules.Proofs.Value.Members
import RecordRules.Proofs.Predicate.Inclusion
import RecordRules.Proofs.Predicate.Instance
import RecordRules.Proofs.Predicate.Length
import RecordRules.Proofs.Predicate.Number
import RecordRules.Proofs.Document.Address
import RecordRules.Proofs.Report.Stability
import RecordRules.Proofs.Path.Acceptance
import RecordRules.Proofs.Pattern.Language
import RecordRules.Proofs.Text.Trimming
import RecordRules.Proofs.Predicate.Numeral
import RecordRules.Proofs.Predicate.Classification
import RecordRules.Proofs.Predicate.Printing
import RecordRules.Proofs.Workspace.Frame
import RecordRules.Proofs.Registry.History
import RecordRules.Proofs.Workspace.Registration
import RecordRules.Proofs.Expr.Readability
