import RecordRules.Proofs.Value.Comparable
import RecordRules.Proofs.Value.Entries
import RecordRules.Proofs.Value.Range

/-!
Collections that are alike hold the same values.

A list or a tuple holds what is alike to one of its items. A set or a dictionary holds what has a
key like one of theirs, so that a value without a key is a fault there. Either way the answer for a
comparable value is the same for all collections that are alike (`contains_congr`).
-/

namespace RecordRules

namespace Value

variable {h : Heap} {v w p q : Value}

/-! ### Keys -/

theorem IsComparable.asMember (comparable : v.IsComparable h) : v.asMember.IsComparable h := by
  cases v with
  | set frozen items =>
      cases comparable with
      | atom form | ordered form => cases form
      | table form _ _ keyed distinct keys values =>
          refine .table (v := .set true items) form ?_ ?_ keyed distinct keys values
          · rintro m ⟨⟩
          · rintro m ⟨⟩
  | _ => exact comparable

end Value

end RecordRules
