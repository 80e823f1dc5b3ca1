import RecordRules.Proofs.Evaluation.Log
import RecordRules.Proofs.Expr.Equality

/-!
Records that evaluate alike.

Two records agree on a rule when the rule comes to the same verdict and to the same log for both
(`AgreeOn`). They do so if its path leads to the same value in both, or to values that a report
shows alike and about which the leaves of the rule answer alike. Records that agree on every rule of
a set have the same evaluation as far as its answer and its log go (`evaluateBy_congr`).
-/

namespace RecordRules

namespace Expr

section Answers

variable {outcomes : Outcomes} {path : Label} {v w : Value}

theorem firstFailure_answer_congr {es : List Expr}
    (each : ∀ e ∈ es, (e.failureBy outcomes path v).answer = (e.failureBy outcomes path w).answer) :
    (firstFailure outcomes path v es).answer = (firstFailure outcomes path w es).answer := by
  induction es with
  | nil => rfl
  | cons e es ih =>
      obtain ⟨first, others⟩ := List.forall_mem_cons.mp each
      simp only [firstFailure, Run.answer_bind, first]
      congr 1
      funext blamed
      cases blamed with
      | none => exact ih others
      | some _ => rfl

theorem anySatisfied_answer_congr {es : List Expr}
    (each : ∀ e ∈ es, (e.failureBy outcomes path v).answer = (e.failureBy outcomes path w).answer) :
    (anySatisfied outcomes path v es).answer = (anySatisfied outcomes path w es).answer := by
  induction es with
  | nil => rfl
  | cons e es ih =>
      obtain ⟨first, others⟩ := List.forall_mem_cons.mp each
      simp only [anySatisfied, Run.answer_bind, first]
      congr 1
      funext blamed
      cases blamed with
      | none => rfl
      | some _ => exact ih others

/-- What an expression answers about two values is the same if its leaves answer alike. -/
theorem failureBy_answer_congr {e : Expr}
    (same : ∀ leaf ∈ e.leaves, outcomes leaf.1 v leaf.2 = outcomes leaf.1 w leaf.2) :
    (e.failureBy outcomes path v).answer = (e.failureBy outcomes path w).answer := by
  have operands {es : List Expr}
      (ih : ∀ e ∈ es, (∀ leaf ∈ e.leaves, outcomes leaf.1 v leaf.2 = outcomes leaf.1 w leaf.2) →
        (e.failureBy outcomes path v).answer = (e.failureBy outcomes path w).answer)
      (same : ∀ leaf ∈ leavesOf es, outcomes leaf.1 v leaf.2 = outcomes leaf.1 w leaf.2) :
      ∀ e ∈ es, (e.failureBy outcomes path v).answer = (e.failureBy outcomes path w).answer := by
    rw [leavesOf_eq_flatMap] at same
    exact fun e mem => ih e mem fun leaf inLeaf => same leaf (List.mem_flatMap.mpr ⟨e, mem, inLeaf⟩)
  induction e using Expr.induction with
  | bound p params =>
      have here := same (p, params) List.mem_cons_self
      simp only [failureBy, Run.answer_bind, ask, here]
  | all es ih =>
      simp only [failureBy]
      exact firstFailure_answer_congr (operands ih same)
  | any es ih =>
      simp only [failureBy, Run.answer_bind, anySatisfied_answer_congr (operands ih same)]
  | negation e ih =>
      simp only [failureBy, Run.answer_bind, ih same]

end Answers

end Expr

namespace Config

section Agreement

variable (outcomes : Outcomes) (c : Config) (record record' : Value)

/-- Two records agree on a rule: it comes to the same verdict and to the same log for both. -/
structure AgreeOn (r : Rule) : Prop where
  verdict : c.verdict outcomes record r = c.verdict outcomes record' r
  log : Run.logOf (c.history outcomes record r) = Run.logOf (c.history outcomes record' r)

variable {outcomes c record record'}

/-- Records agree on a rule whose path leads to the same in both. -/
theorem AgreeOn.of_resolve {r : Rule} (same : c.resolve record r.path = c.resolve record' r.path) :
    AgreeOn outcomes c record record' r := by
  have verdict : c.verdict outcomes record r = c.verdict outcomes record' r := by
    unfold Config.verdict
    rw [same]
  refine ⟨verdict, ?_⟩
  rw [logOf_history, logOf_history, same, verdict]

/-- Records agree on a rule whose path leads to values that a report shows alike, if the leaves of
the rule answer alike about them. -/
theorem AgreeOn.of_leaves {r : Rule} {v w : Value} (found : c.resolve record r.path = .ok v)
    (found' : c.resolve record' r.path = .ok w) (shown : v.reported = w.reported)
    (same : ∀ leaf ∈ r.expr.leaves, outcomes leaf.1 v leaf.2 = outcomes leaf.1 w leaf.2) :
    AgreeOn outcomes c record record' r := by
  have answer : (r.failureBy outcomes v).answer = (r.failureBy outcomes w).answer :=
    Expr.failureBy_answer_congr same
  have verdict : c.verdict outcomes record r = c.verdict outcomes record' r := by
    unfold Config.verdict
    rw [found, found']
    dsimp only
    rw [answer, ← reported_eq, ← reported_eq, shown]
  refine ⟨verdict, ?_⟩
  rw [logOf_history, logOf_history, found, found', verdict]
  cases c.checkPath r.path <;> rfl

/-- Records that agree on every rule of a set come to the same answer and to the same log. -/
theorem evaluateBy_congr {rs : RuleSet}
    (agree : ∀ r ∈ rs.rules, AgreeOn outcomes c record record' r) :
    (c.evaluateBy outcomes rs record).answer = (c.evaluateBy outcomes rs record').answer ∧
      Run.logOf (c.evaluateBy outcomes rs record).events =
        Run.logOf (c.evaluateBy outcomes rs record').events := by
  have logs {qs : List Rule} (within : ∀ q ∈ qs, q ∈ rs.rules) :
      qs.flatMap (fun q => Run.logOf (c.history outcomes record q)) =
        qs.flatMap fun q => Run.logOf (c.history outcomes record' q) :=
    List.flatMap_congr fun q mem => (agree q (within q mem)).log
  rcases unbroken_or_broken outcomes c record rs.rules with unbroken |
    ⟨before, r, after, f, split, unbroken, broken⟩
  · have unbroken' : ∀ r ∈ rs.rules, (c.verdict outcomes record' r).fault? = none :=
      fun r mem => (agree r mem).verdict ▸ unbroken r mem
    have failures : c.failures outcomes record rs.rules = c.failures outcomes record' rs.rules :=
      List.filterMap_congr fun r mem => congrArg Verdict.error? (agree r mem).verdict
    rw [evaluateBy_unbroken outcomes c record unbroken,
      evaluateBy_unbroken outcomes c record' unbroken', failures]
    refine ⟨rfl, ?_⟩
    rw [Run.logOf_append, Run.logOf_append, Run.logOf_flatMap, Run.logOf_flatMap,
      logs fun _ mem => mem]
  · have within : ∀ q ∈ before ++ [r], q ∈ rs.rules := by
      intro q mem
      rw [split, ← List.singleton_append, ← List.append_assoc]
      exact List.mem_append_left _ mem
    have unbroken' : ∀ q ∈ before, (c.verdict outcomes record' q).fault? = none :=
      fun q mem => (agree q (within q (List.mem_append_left _ mem))).verdict ▸ unbroken q mem
    have last : r ∈ before ++ [r] := List.mem_append_right _ List.mem_cons_self
    have broken' : (c.verdict outcomes record' r).fault? = some f :=
      (agree r (within r last)).verdict ▸ broken
    rw [evaluateBy_broken outcomes c record split unbroken broken,
      evaluateBy_broken outcomes c record' split unbroken' broken']
    refine ⟨rfl, ?_⟩
    rw [Run.logOf_flatMap, Run.logOf_flatMap, logs within]

end Agreement

end Config

end RecordRules
