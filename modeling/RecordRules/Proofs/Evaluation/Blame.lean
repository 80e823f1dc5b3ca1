import RecordRules.Proofs.Evaluation.Pass
import RecordRules.Proofs.Outcome

/-!
The blame in a conjunction.

A conjunction passes on the blame of its operand, while a disjunction and a negation take it
themselves. So the parts of an expression that can be blamed are its conjuncts: the operands of the
conjunction, where an operand that is a conjunction itself is replaced by its own conjuncts
(`Expr.conjuncts`). Asking an expression is asking its conjuncts from the left
(`Expr.failureBy_eq_firstFailure`), and a conjunct that fails blames itself. Conjunctions with the
same conjuncts, however they are grouped, cannot be told apart by an evaluation.
-/

namespace RecordRules

namespace Expr

mutual

/-- The parts of an expression that can be blamed: conjunctions are expanded, and nothing under a
disjunction or a negation is. -/
def conjuncts : Expr → List Expr
  | .all es => conjunctsOf es
  | .bound p params => [.bound p params]
  | .any es => [.any es]
  | .negation e => [.negation e]
termination_by structural e => e

/-- The conjuncts of operands, from the left. -/
def conjunctsOf : List Expr → List Expr
  | [] => []
  | e :: es => e.conjuncts ++ conjunctsOf es
termination_by structural es => es

end

theorem conjunctsOf_eq_flatMap (es : List Expr) : conjunctsOf es = es.flatMap conjuncts := by
  induction es with
  | nil => rfl
  | cons e es ih => rw [conjunctsOf, ih, List.flatMap_cons]

/-- Whether an expression is a conjunction. -/
def isConjunction : Expr → Bool
  | .all _ => true
  | _ => false

/-- No conjunct is a conjunction. -/
theorem isConjunction_of_mem_conjuncts {e c : Expr} (mem : c ∈ e.conjuncts) :
    c.isConjunction = false := by
  induction e using Expr.induction with
  | bound p params =>
      obtain rfl := List.mem_singleton.mp mem
      rfl
  | all es ih =>
      rw [conjuncts, conjunctsOf_eq_flatMap] at mem
      obtain ⟨e, inOperands, mem⟩ := List.mem_flatMap.mp mem
      exact ih e inOperands mem
  | any es ih =>
      obtain rfl := List.mem_singleton.mp mem
      rfl
  | negation e ih =>
      obtain rfl := List.mem_singleton.mp mem
      rfl

section Blame

variable (outcomes : Outcomes) (path : Label) (v : Value)

/-! ### Asking the conjuncts from the left -/

theorem firstFailure_append (es fs : List Expr) :
    firstFailure outcomes path v (es ++ fs) = do
      match ← firstFailure outcomes path v es with
      | none => firstFailure outcomes path v fs
      | some blamed => return some blamed := by
  induction es with
  | nil => rw [List.nil_append, firstFailure, pure_bind]
  | cons e es ih =>
      rw [List.cons_append, firstFailure, firstFailure, bind_assoc]
      congr 1
      funext blamed
      cases blamed with
      | none => exact ih
      | some b => rw [pure_bind]

theorem firstFailure_singleton (e : Expr) :
    firstFailure outcomes path v [e] = e.failureBy outcomes path v := by
  have keep : (fun blamed : Option Expr => match blamed with
      | none => firstFailure outcomes path v []
      | some b => pure (some b)) = (pure : Option Expr → Run (Option Expr)) := by
    funext blamed
    cases blamed <;> rfl
  rw [firstFailure]
  exact (congrArg (e.failureBy outcomes path v >>= ·) keep).trans (bind_pure _)

/-- Operands may be replaced by their conjuncts if each of them may. -/
theorem firstFailure_conjunctsOf {es : List Expr}
    (each : ∀ e ∈ es, e.failureBy outcomes path v = firstFailure outcomes path v e.conjuncts) :
    firstFailure outcomes path v es = firstFailure outcomes path v (conjunctsOf es) := by
  induction es with
  | nil => rfl
  | cons e es ih =>
      obtain ⟨first, others⟩ := List.forall_mem_cons.mp each
      rw [conjunctsOf, firstFailure_append, ← first, ← ih others]
      rfl

/-- To ask an expression is to ask its conjuncts from the left. -/
theorem failureBy_eq_firstFailure (e : Expr) :
    e.failureBy outcomes path v = firstFailure outcomes path v e.conjuncts := by
  induction e using Expr.induction with
  | all es ih => exact firstFailure_conjunctsOf outcomes path v ih
  | bound p params => exact (firstFailure_singleton outcomes path v _).symm
  | any es _ => exact (firstFailure_singleton outcomes path v _).symm
  | negation e _ => exact (firstFailure_singleton outcomes path v _).symm

/-- Conjunctions with the same conjuncts are asked alike. -/
theorem failureBy_congr_conjuncts {e e' : Expr} (same : e.conjuncts = e'.conjuncts) :
    e.failureBy outcomes path v = e'.failureBy outcomes path v := by
  rw [failureBy_eq_firstFailure, failureBy_eq_firstFailure, same]

/-! ### Which conjunct is blamed -/

variable {outcomes path v}

/-- What is no conjunction blames itself or nothing. -/
theorem eq_of_blamed {e b : Expr} (single : e.isConjunction = false)
    (blamed : (e.failureBy outcomes path v).answer = .ok (some b)) : b = e := by
  cases e with
  | all es => cases single
  | bound p params =>
      rw [failureBy, Run.answer_bind] at blamed
      obtain ⟨satisfied, -, blamed⟩ := Except.bind_ok_iff.mp blamed
      cases satisfied <;> cases blamed
      rfl
  | any es =>
      rw [failureBy, Run.answer_bind] at blamed
      obtain ⟨satisfied, -, blamed⟩ := Except.bind_ok_iff.mp blamed
      cases satisfied <;> cases blamed
      rfl
  | negation e =>
      rw [failureBy, Run.answer_bind] at blamed
      obtain ⟨inner, -, blamed⟩ := Except.bind_ok_iff.mp blamed
      cases inner <;> cases blamed
      rfl

theorem firstFailure_cons_none {e : Expr} {es : List Expr}
    (satisfied : (e.failureBy outcomes path v).answer = .ok none) :
    (firstFailure outcomes path v (e :: es)).answer = (firstFailure outcomes path v es).answer := by
  rw [firstFailure, Run.answer_bind, satisfied]
  rfl

theorem firstFailure_cons_some {e b : Expr} {es : List Expr}
    (blamed : (e.failureBy outcomes path v).answer = .ok (some b)) :
    (firstFailure outcomes path v (e :: es)).answer = .ok (some b) := by
  rw [firstFailure, Run.answer_bind, blamed]
  rfl

/-- Whoever is blamed among some expressions is blamed by the first of them that is not satisfied. -/
theorem firstFailure_some_iff {es : List Expr} {b : Expr} :
    (firstFailure outcomes path v es).answer = .ok (some b) ↔
      ∃ before e after, es = before ++ e :: after ∧
        (∀ c ∈ before, (c.failureBy outcomes path v).answer = .ok none) ∧
        (e.failureBy outcomes path v).answer = .ok (some b) := by
  constructor
  · intro blamed
    induction es with
    | nil => cases blamed
    | cons e es ih =>
        cases answer : (e.failureBy outcomes path v).answer with
        | error f =>
            rw [firstFailure, Run.answer_bind, answer] at blamed
            cases blamed
        | ok here =>
            cases here with
            | none =>
                rw [firstFailure_cons_none answer] at blamed
                obtain ⟨before, d, after, rfl, satisfied, last⟩ := ih blamed
                exact ⟨e :: before, d, after, rfl, List.forall_mem_cons.mpr ⟨answer, satisfied⟩, last⟩
            | some c =>
                rw [firstFailure_cons_some answer] at blamed
                exact ⟨[], e, es, rfl, List.forall_mem_nil _, answer.trans blamed⟩
  · rintro ⟨before, e, after, rfl, satisfied, last⟩
    induction before with
    | nil => exact firstFailure_cons_some last
    | cons c before ih =>
        obtain ⟨first, others⟩ := List.forall_mem_cons.mp satisfied
        rw [List.cons_append, firstFailure_cons_none first]
        exact ih others

/-- The one to blame is the first conjunct that is not satisfied. -/
theorem failureBy_some_iff {e b : Expr} :
    (e.failureBy outcomes path v).answer = .ok (some b) ↔
      ∃ before after, e.conjuncts = before ++ b :: after ∧
        (∀ c ∈ before, (c.failureBy outcomes path v).answer = .ok none) ∧
        (b.failureBy outcomes path v).answer = .ok (some b) := by
  rw [failureBy_eq_firstFailure, firstFailure_some_iff]
  constructor
  · rintro ⟨before, c, after, split, satisfied, blamed⟩
    have mem : c ∈ e.conjuncts := split ▸ List.mem_append_right _ List.mem_cons_self
    obtain rfl := eq_of_blamed (isConjunction_of_mem_conjuncts mem) blamed
    exact ⟨before, after, split, satisfied, blamed⟩
  · rintro ⟨before, after, split, satisfied, blamed⟩
    exact ⟨before, b, after, split, satisfied, blamed⟩

end Blame

end Expr

namespace Config

variable (outcomes : Outcomes) (c : Config) (record : Value)

/-! ### Grouping a conjunction -/

/-- Rules for one path are evaluated alike if their expressions have one name and are asked
alike. -/
theorem step_congr {path : Label} {e e' : Expr} (name : e.name = e'.name)
    (asked : ∀ v, e.failureBy outcomes path v = e'.failureBy outcomes path v) :
    c.step outcomes record ⟨path, e⟩ = c.step outcomes record ⟨path, e'⟩ := by
  simp only [step, evaluateRule, valueFor, blameFor, Rule.failureBy, Rule.errorFor, name, asked]

/-- A rule may be replaced by one that is evaluated alike. -/
theorem evaluateBy_replace {r r' : Rule}
    (alike : c.step outcomes record r = c.step outcomes record r') (before after : List Rule) :
    c.evaluateBy outcomes ⟨before ++ r :: after⟩ record =
      c.evaluateBy outcomes ⟨before ++ r' :: after⟩ record := by
  have errors : c.errorsOf outcomes record (before ++ r :: after) =
      c.errorsOf outcomes record (before ++ r' :: after) := by
    induction before with
    | nil => rw [List.nil_append, List.nil_append, errorsOf_cons, errorsOf_cons, alike]
    | cons q before ih => rw [List.cons_append, List.cons_append, errorsOf_cons, errorsOf_cons, ih]
  simp only [evaluateBy, errors, List.length_append, List.length_cons]

/-- Conjunctions with the same conjuncts may stand for each other in a rule. -/
theorem evaluateBy_regroup {es fs : List Expr}
    (same : Expr.conjunctsOf es = Expr.conjunctsOf fs) (path : Label) (before after : List Rule) :
    c.evaluateBy outcomes ⟨before ++ ⟨path, .all es⟩ :: after⟩ record =
      c.evaluateBy outcomes ⟨before ++ ⟨path, .all fs⟩ :: after⟩ record := by
  have alike : c.step outcomes record ⟨path, .all es⟩ = c.step outcomes record ⟨path, .all fs⟩ :=
    step_congr outcomes c record rfl fun v => Expr.failureBy_congr_conjuncts outcomes path v same
  exact evaluateBy_replace outcomes c record alike before after

/-- **The blame is with the first conjunct that fails.** An expression blames `b` exactly when `b`
is the first of its conjuncts that is not satisfied, and then `b` blames itself and is no
conjunction. So conjunctions may be regrouped: with the same conjuncts from the left, a rule comes
to the same error or fault, and a whole evaluation to the same result and the same history. -/
theorem blame_first_conjunct :
    (∀ path v (e b : Expr), (e.failureBy outcomes path v).answer = .ok (some b) ↔
      ∃ before after, e.conjuncts = before ++ b :: after ∧
        (∀ d ∈ before, (d.failureBy outcomes path v).answer = .ok none) ∧
        (b.failureBy outcomes path v).answer = .ok (some b)) ∧
    (∀ path v (e b : Expr), (e.failureBy outcomes path v).answer = .ok (some b) →
      b.isConjunction = false) ∧
    (∀ es fs, Expr.conjunctsOf es = Expr.conjunctsOf fs → ∀ path before after,
      c.evaluateBy outcomes ⟨before ++ ⟨path, .all es⟩ :: after⟩ record =
        c.evaluateBy outcomes ⟨before ++ ⟨path, .all fs⟩ :: after⟩ record) ∧
    ∀ (x y z : Expr) path before after,
      c.evaluateBy outcomes ⟨before ++ ⟨path, .all [.all [x, y], z]⟩ :: after⟩ record =
          c.evaluateBy outcomes ⟨before ++ ⟨path, .all [x, .all [y, z]]⟩ :: after⟩ record ∧
        c.evaluateBy outcomes ⟨before ++ ⟨path, .all [x, .all [y, z]]⟩ :: after⟩ record =
          c.evaluateBy outcomes ⟨before ++ ⟨path, .all [x, y, z]⟩ :: after⟩ record := by
  refine ⟨fun path v e b => Expr.failureBy_some_iff, fun path v e b blamed => ?_,
    fun es fs same path before after => evaluateBy_regroup outcomes c record same path before after,
    fun x y z path before after => ⟨?_, ?_⟩⟩
  · obtain ⟨before, after, split, -, -⟩ := Expr.failureBy_some_iff.mp blamed
    have mem : b ∈ e.conjuncts := split ▸ List.mem_append_right _ List.mem_cons_self
    exact Expr.isConjunction_of_mem_conjuncts mem
  · refine evaluateBy_regroup outcomes c record ?_ path before after
    simp only [Expr.conjunctsOf, Expr.conjuncts, List.append_nil, List.append_assoc]
  · refine evaluateBy_regroup outcomes c record ?_ path before after
    simp only [Expr.conjunctsOf, Expr.conjuncts, List.append_nil]

end Config

end RecordRules
