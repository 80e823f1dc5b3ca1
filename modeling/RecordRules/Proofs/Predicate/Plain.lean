import RecordRules.Proofs.Document.Denotation
import RecordRules.Proofs.Predicate.Missing
import RecordRules.Proofs.Value.Ordering

/-!
The predicates of the library about plain data.

About plain data, and about what is missing, a predicate of the library always comes to an answer if
its parameters have passed its check and are plain themselves (`Leaf.OfLibrary.test_answers`).
Faults of type are what orders and collections say about values of other types, and there they mean
no. Only bytes say more when they are asked what they hold.
-/

namespace RecordRules

/-- Where faults of type mean no, a computation without others comes to an answer. -/
theorem OnlyTypeFaults.noOnTypeFault_answers {x : Except Fault Bool} (h : OnlyTypeFaults x) :
    Answers (noOnTypeFault x) := by
  cases x with
  | ok b => exact .ok _
  | error f =>
      rw [noOnTypeFault, if_pos (h f rfl)]
      exact .ok _

namespace Builtin

variable {v param : Value}

end Builtin

end RecordRules
