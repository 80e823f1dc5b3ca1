import RecordRules.Proofs.Evaluation.Pass
import RecordRules.Proofs.Report.Merging

/-!
Rule sets in a row.

To evaluate the rules of two sets in a row is to evaluate both and to merge the results
(`evaluateBy_append`): the errors of the second set come after those of the first, and grouping them
all is merging the two groupings. The second set is not reached when the first one ends in a fault.
-/

namespace RecordRules

namespace Config

variable (outcomes : Outcomes) (c : Config) (record : Value)

/-- The errors of two lists of rules in a row. -/
theorem errorsOf_concat (rs ss : List Rule) :
    c.errorsOf outcomes record (rs ++ ss) = do
      let es ← c.errorsOf outcomes record rs
      let fs ← c.errorsOf outcomes record ss
      return es ++ fs := by
  induction rs with
  | nil =>
      have none : c.errorsOf outcomes record [] = pure [] := rfl
      simp only [none, pure_bind, List.nil_append, bind_pure]
  | cons r rs ih =>
      rw [List.cons_append, errorsOf_cons, errorsOf_cons, bind_assoc]
      congr 1
      funext error
      cases error with
      | none => exact ih
      | some e => simp only [ih, bind_assoc, pure_bind, List.cons_append]

theorem answer_errorsOf_concat (rs ss : List Rule) :
    (c.errorsOf outcomes record (rs ++ ss)).answer = do
      let es ← (c.errorsOf outcomes record rs).answer
      let fs ← (c.errorsOf outcomes record ss).answer
      return es ++ fs := by
  rw [errorsOf_concat]
  simp only [Run.answer_bind, Run.answer_pure]
  rfl

/-- What an evaluation answers is the grouping of its errors, or the fault that it ends in. -/
theorem answer_evaluateBy (rs : RuleSet) :
    (c.evaluateBy outcomes rs record).answer =
      (c.errorsOf outcomes record rs.rules).answer.map fun errors => ⟨.ofList errors⟩ := by
  rw [evaluateBy, Run.answer_bind]
  cases (c.errorsOf outcomes record rs.rules).answer <;> rfl

/-- **Concatenating rule sets is merging results.** The rules of two sets in a row evaluate to the
merged results of both, groups, labels and errors in the same order. If the first set ends in a
fault, so does the evaluation of both in a row, and if only the second one does, it ends in that. A
result groups the errors that it is made of; the one without errors is the identity of merging on
both sides, and merging is associative. -/
theorem evaluateBy_append :
    (∀ a b : RuleSet, (c.evaluateBy outcomes (a.append b) record).answer =
      match (c.evaluateBy outcomes a record).answer, (c.evaluateBy outcomes b record).answer with
      | .error f, _ => .error f
      | .ok _, .error f => .error f
      | .ok first, .ok second => .ok (first.merge second)) ∧
    (∀ errors : List Error,
      (⟨.ofList errors⟩ : Result).merge ⟨.empty⟩ = ⟨.ofList errors⟩ ∧
      (⟨.empty⟩ : Result).merge ⟨.ofList errors⟩ = ⟨.ofList errors⟩) ∧
    ∀ x y z : Result, (x.merge y).merge z = x.merge (y.merge z) := by
  refine ⟨fun a b => ?_, fun errors => ⟨?_, ?_⟩, fun x y z => ?_⟩
  · rw [answer_evaluateBy, answer_evaluateBy, answer_evaluateBy, RuleSet.append,
      answer_errorsOf_concat]
    cases (c.errorsOf outcomes record a.rules).answer with
    | error f => rfl
    | ok es =>
        cases (c.errorsOf outcomes record b.rules).answer with
        | error f => rfl
        | ok fs =>
            have merged := ErrorSet.merge_ofList es fs
            exact congrArg (fun s => Except.ok (Result.mk s)) merged.symm
  · exact congrArg Result.mk (ErrorSet.merge_empty errors)
  · exact congrArg Result.mk (ErrorSet.empty_merge errors)
  · exact congrArg Result.mk (ErrorSet.merge_assoc x.errors y.errors z.errors)

end Config

end RecordRules
