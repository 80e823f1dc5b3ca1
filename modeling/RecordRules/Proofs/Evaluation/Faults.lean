import RecordRules.Proofs.Evaluation.Log
import RecordRules.Proofs.Registry.Lookup

/-!
Faults of predicates in an evaluation.

A predicate that is called and faults ends the evaluation (`evaluateBy_called_fault`). A fault of
the values is attributed to the path of the rule and to the leaf, wherever in the rule's expression
the leaf stands, and it is the only error in the log. A fault of the engine is let through as it is:
it may name a path and a predicate of its own, or none.
-/

namespace RecordRules

def LogEntry.isError (entry : LogEntry) : Bool := entry.text.1 == "ERROR"

def Run.errorsIn (events : List Event) : List LogEntry := (logOf events).filter LogEntry.isError

theorem Run.errorsIn_flatMap {α : Type} (xs : List α) (f : α → List Event) :
    Run.errorsIn (xs.flatMap f) = xs.flatMap fun x => Run.errorsIn (f x) := by
  rw [errorsIn, logOf_flatMap, List.filter_flatMap]
  rfl

namespace Config

section

variable {outcomes : Outcomes} {c : Config} {record : Value}

/-- A rule that does not break logs no error. -/
theorem errorsIn_unbroken {r : Rule} (unbroken : (c.verdict outcomes record r).fault? = none) :
    Run.errorsIn (c.history outcomes record r) = [] := by
  rw [Run.errorsIn, logOf_history]
  cases path : c.checkPath r.path with
  | error f => rfl
  | ok u =>
      cases value : c.resolve record r.path with
      | error f =>
          simp only [verdict, path, value] at unbroken
          cases unbroken
      | ok v =>
          dsimp only
          cases verdict : c.verdict outcomes record r with
          | satisfied => rfl
          | failed e => cases c.logFailures <;> rfl
          | broken f => rw [verdict] at unbroken; cases unbroken

/-- A rule for which a predicate is called that faults breaks by that fault. -/
theorem broken_of_called {r : Rule} {p : Predicate} {v : Value} {params : List Value}
    {origin : Fault} (called : (p, v, params) ∈ Run.callsOf (c.history outcomes record r))
    (faults : outcomes p v params = .error origin) :
    (c.verdict outcomes record r).fault? = some (Expr.blameFault r.path p origin) := by
  obtain ⟨path, value, asked⟩ := (mem_callsOf_history outcomes c record r).mp called
  refine (fault?_verdict outcomes c record r _).mpr (.inr (.inr ⟨path, v, value, ?_⟩))
  exact ⟨(p, params), asked, origin, faults, rfl⟩

/-- A rule for which a predicate is called that faults logs that fault, unless it is one of the
engine, which is logged only if it is itself about an evaluation. -/
theorem logOf_called {r : Rule} {p : Predicate} {v : Value} {params : List Value}
    {origin : Fault} (called : (p, v, params) ∈ Run.callsOf (c.history outcomes record r))
    (faults : outcomes p v params = .error origin) :
    Run.logOf (c.history outcomes record r) =
      Run.logOf (brokenEntry (Expr.blameFault r.path p origin)) := by
  obtain ⟨path, value, -⟩ := (mem_callsOf_history outcomes c record r).mp called
  have broken := broken_of_called called faults
  rw [logOf_history]
  simp only [path, value]
  cases verdict : c.verdict outcomes record r with
  | satisfied => rw [verdict] at broken; cases broken
  | failed e => rw [verdict] at broken; cases broken
  | broken f => rw [verdict] at broken; cases broken; rfl

/-- The calls before the first rule that breaks do not fault, so a call that does was made for
that rule, the last one that was reached. -/
theorem reached_of_called {rs : RuleSet} {p : Predicate} {v : Value} {params : List Value}
    {origin : Fault}
    (called : (p, v, params) ∈ Run.callsOf (c.evaluateBy outcomes rs record).events)
    (faults : outcomes p v params = .error origin) :
    ∃ before r after, rs.rules = before ++ r :: after ∧
      (∀ q ∈ before, (c.verdict outcomes record q).fault? = none) ∧
      (p, v, params) ∈ Run.callsOf (c.history outcomes record r) := by
  have notEarlier {q : Rule} (unbroken : (c.verdict outcomes record q).fault? = none) :
      (p, v, params) ∉ Run.callsOf (c.history outcomes record q) := by
    intro here
    rw [broken_of_called here faults] at unbroken
    cases unbroken
  rcases unbroken_or_broken outcomes c record rs.rules with unbroken |
    ⟨before, r, after, f, split, unbroken, broken⟩
  · rw [evaluateBy_unbroken outcomes c record unbroken, Run.callsOf_append, Run.callsOf_flatMap,
      List.mem_append, List.mem_flatMap] at called
    rcases called with ⟨q, mem, here⟩ | here
    · exact absurd here (notEarlier (unbroken q mem))
    · cases here
  · refine ⟨before, r, after, split, unbroken, ?_⟩
    rw [evaluateBy_broken outcomes c record split unbroken broken, Run.callsOf_flatMap,
      List.mem_flatMap] at called
    obtain ⟨q, mem, here⟩ := called
    rcases List.mem_append.mp mem with early | last
    · exact absurd here (notEarlier (unbroken q early))
    · exact List.mem_singleton.mp last ▸ here

end

/-- **A predicate that faults is reported.** If a predicate is called in an evaluation and faults,
the call was made for the last rule that was reached, by a leaf of its expression, and the
evaluation ends in a fault. Unless the predicate's fault is one of the engine, it is attributed to
the path of that rule and to the leaf and holds the predicate's fault as its origin, and the log has
exactly one error, which says so. A fault of the engine is what the evaluation ends in. -/
theorem evaluateBy_called_fault {outcomes : Outcomes} {c : Config} {rs : RuleSet} {record : Value}
    {p : Predicate} {v : Value} {params : List Value} {origin : Fault}
    (called : (p, v, params) ∈ Run.callsOf (c.evaluateBy outcomes rs record).events)
    (faults : outcomes p v params = .error origin) :
    ∃ before r after, rs.rules = before ++ r :: after ∧
      (c.evaluateBy outcomes rs record).events =
        (before ++ [r]).flatMap (c.history outcomes record) ∧
      c.resolve record r.path = .ok v ∧ (p, params) ∈ r.expr.leaves ∧
      (origin.isEngine = false →
        (c.evaluateBy outcomes rs record).answer =
          .error (.evaluation (.text r.path) (.ofString p.key) (.fault origin)) ∧
        Run.errorsIn (c.evaluateBy outcomes rs record).events =
          [.broken (.text r.path) (.ofString p.key) (.fault origin)]) ∧
      (origin.isEngine = true → (c.evaluateBy outcomes rs record).answer = .error origin) := by
  obtain ⟨before, r, after, split, unbroken, here⟩ := reached_of_called called faults
  obtain ⟨-, value, asked⟩ := (mem_callsOf_history outcomes c record r).mp here
  have run := evaluateBy_broken outcomes c record split unbroken (broken_of_called here faults)
  rw [run]
  refine ⟨before, r, after, split, rfl, value, ?_, fun plain => ⟨?_, ?_⟩, fun engine => ?_⟩
  · exact (Expr.asked_read_sublist outcomes v r.expr).mem asked
  · exact congrArg Except.error (if_neg (Bool.eq_false_iff.mp plain))
  · have earlier : before.flatMap (fun q => Run.errorsIn (c.history outcomes record q)) = [] :=
      List.flatMap_eq_nil_iff.mpr fun q mem => errorsIn_unbroken (unbroken q mem)
    have blamed : Expr.blameFault r.path p origin =
        .evaluation (.text r.path) (.ofString p.key) (.fault origin) :=
      if_neg (Bool.eq_false_iff.mp plain)
    rw [Run.errorsIn_flatMap, List.flatMap_append, earlier, List.flatMap_singleton, Run.errorsIn,
      logOf_called here faults, blamed]
    rfl
  · exact congrArg Except.error (if_pos engine)

/-! ### A division and a refusal -/

def oneRecord : Value := .object [("a", .int 1)]

/-- A test that divides by zero. -/
def ratio : Predicate := .custom 0 (.ofString "ratio?") .divide 0

/-- The division stands below a negation and a conjunction, after a leaf that is satisfied. -/
def ratioRules : RuleSet :=
  ⟨[⟨.plain "a", .negation (.all [.bound (Builtin.filled.predicate 1) [], .bound ratio []])⟩]⟩

/-- The division is reported for the path of the rule and under the name of the leaf, once. -/
theorem evaluate_ratioRules :
    (ratio, .int 1, []) ∈ Run.callsOf (Config.standard.evaluate ratioRules oneRecord).events ∧
      (Config.standard.evaluate ratioRules oneRecord).answer =
        .error (.evaluation (.text (.plain "a")) (.ofString "ratio?")
          (.fault (.ofMessage .zeroDivision "division by zero"))) ∧
      Run.errorsIn (Config.standard.evaluate ratioRules oneRecord).events =
        [.broken (.text (.plain "a")) (.ofString "ratio?")
          (.fault (.ofMessage .zeroDivision "division by zero"))] := by
  have called :
      (ratio, .int 1, []) ∈ Run.callsOf (Config.standard.evaluate ratioRules oneRecord).events := by
    have calls : Run.callsOf (Config.standard.evaluate ratioRules oneRecord).events =
        [(Builtin.filled.predicate 1, .int 1, []), (ratio, .int 1, [])] := rfl
    rw [calls]
    exact List.mem_cons_of_mem _ List.mem_cons_self
  have faults : ratio.test (.int 1) [] = .error (.ofMessage .zeroDivision "division by zero") := rfl
  obtain ⟨before, r, after, split, -, -, -, reported, -⟩ := evaluateBy_called_fault called faults
  obtain ⟨rfl, only⟩ | ⟨_, none⟩ := List.cons_eq_append_iff.mp split
  · cases only
    exact ⟨called, reported rfl⟩
  · simp at none

/-- A test that fails with a fault of the engine. -/
def refusal : Predicate := .custom 0 (.ofString "boom?") .fail 2

/-- The parameters of the refusal: the class of its fault and the message. -/
def refusalParams : List Value := [.ofString "ValidationEngineError", .ofString "down"]

/-- A rule that asks for the refusal. -/
def refusalRules : RuleSet := ⟨[⟨.plain "a", .bound refusal refusalParams⟩]⟩

/-- A fault of the engine ends an evaluation as it is: it is not attributed to the path and the
leaf, and the log has no error. -/
theorem evaluate_refusalRules :
    Run.callsOf (Config.standard.evaluate refusalRules oneRecord).events =
        [(refusal, .int 1, refusalParams)] ∧
      refusal.test (.int 1) refusalParams = .error (.engine [.ofString "down"]) ∧
      (Config.standard.evaluate refusalRules oneRecord).answer =
        .error (.engine [.ofString "down"]) ∧
      (∀ path ruleName origin, (Config.standard.evaluate refusalRules oneRecord).answer ≠
        .error (.evaluation path ruleName origin)) ∧
      Run.errorsIn (Config.standard.evaluate refusalRules oneRecord).events = [] := by
  have answer : (Config.standard.evaluate refusalRules oneRecord).answer =
      .error (.engine [.ofString "down"]) := rfl
  refine ⟨rfl, rfl, answer, fun path ruleName origin attributed => ?_, rfl⟩
  rw [answer] at attributed
  cases attributed

end Config

end RecordRules
