import RecordRules.Evaluation
import RecordRules.Proofs.Expr.Reading
import RecordRules.Proofs.Report.Grouping

/-!
Evaluation as one pass over the rules.

`Config.verdict` says what a single rule comes to: its path is checked, then resolved, then its
expression is asked, and the first fault of the three is the rule's. `evaluateBy_eq_pass` says that
an evaluation takes the verdicts of the rules from the left. Without a fault its result lists the
errors of all failed rules; otherwise it ends in the first fault, and what happened is the history
of the rules up to that one.
-/

namespace RecordRules

/-- What one rule comes to. -/
inductive Verdict where
  | satisfied
  | failed (e : Error)
  | broken (f : Fault)

def Verdict.error? : Verdict → Option Error
  | .failed e => some e
  | .satisfied | .broken _ => none

def Verdict.fault? : Verdict → Option Fault
  | .broken f => some f
  | .satisfied | .failed _ => none

def Verdict.answer : Verdict → Except Fault (Option Error)
  | .satisfied => .ok none
  | .failed e => .ok (some e)
  | .broken f => .error f

theorem Verdict.answer_of_unbroken {x : Verdict} (unbroken : x.fault? = none) :
    x.answer = .ok x.error? := by
  cases x with
  | satisfied => rfl
  | failed e => rfl
  | broken f => cases unbroken

theorem Verdict.answer_of_broken {x : Verdict} {f : Fault} (broken : x.fault? = some f) :
    x.answer = .error f := by
  cases x with
  | satisfied => cases broken
  | failed e => cases broken
  | broken g => cases broken; rfl

namespace Config

section Rule

variable (outcomes : Outcomes) (c : Config) (record : Value) (r : Rule)

/-- What a rule comes to: check the path, resolve it, ask the expression. -/
def verdict : Verdict :=
  match c.checkPath r.path with
  | .error f => .broken f
  | .ok () =>
    match c.resolve record r.path with
    | .error f => .broken (.resolution (.text r.path) (.ofString r.expr.name) (.fault f))
    | .ok v =>
      match (r.failureBy outcomes v).answer with
      | .error f => .broken f
      | .ok none => .satisfied
      | .ok (some blamed) =>
        .failed ⟨r.path, .plain blamed.name, blamed.expected, if v.isAbsent then .none else v⟩

/-- What happens for a rule: nothing if its path is refused; otherwise the path is resolved, the
leaves are called, and a fault or, if the settings ask for it, a failure is logged. -/
def history : List Event :=
  match c.checkPath r.path with
  | .error _ => []
  | .ok () =>
    .resolved r.path ::
      match c.resolve record r.path with
      | .error f => [.logged (.unresolved r.path r.expr.name f)]
      | .ok v =>
        (r.failureBy outcomes v).events ++
          match c.verdict outcomes record r with
          | .satisfied => []
          | .failed e => if c.logFailures then [.logged (.failed e)] else []
          | .broken f => brokenEntry f

def step : Run (Option Error) := do
  Run.ofExcept (c.checkPath r.path)
  c.evaluateRule outcomes record r

theorem reported_eq (v : Value) : v.reported = if v.isAbsent then .none else v := by
  cases v <;> rfl

/-- The run for one rule answers with its verdict and leaves its history. -/
theorem step_eq : c.step outcomes record r =
    ⟨(c.verdict outcomes record r).answer, c.history outcomes record r⟩ := by
  unfold step history
  cases path : c.checkPath r.path with
  | error f => simp only [verdict, path]; rfl
  | ok u =>
      change c.evaluateRule outcomes record r = _
      unfold evaluateRule valueFor
      cases value : c.resolve record r.path with
      | error f => simp only [verdict, path, value]; rfl
      | ok v =>
          rw [Run.bind_ok (a := v) rfl]
          cases asked : (r.failureBy outcomes v).answer with
          | error f =>
              rw [blameFor]
              simp only [verdict, path, value, asked]
              rfl
          | ok blamed =>
              rw [blameFor]
              simp only [verdict, path, value, asked]
              rw [Run.bind_ok asked]
              cases blamed with
              | none => exact Run.ext rfl rfl
              | some e =>
                  rw [← reported_eq]
                  cases logs : c.logFailures with
                  | false => exact Run.ext rfl rfl
                  | true => exact Run.ext rfl rfl

end Rule

/-! ### The pass -/

section Pass

variable (outcomes : Outcomes) (c : Config) (record : Value)

def failures (rs : List Rule) : List Error :=
  rs.filterMap fun r => (c.verdict outcomes record r).error?

theorem failures_cons_none {r : Rule} (passed : (c.verdict outcomes record r).error? = none)
    (rs : List Rule) : c.failures outcomes record (r :: rs) = c.failures outcomes record rs :=
  List.filterMap_cons_none passed

theorem failures_cons_some {r : Rule} {e : Error}
    (failed : (c.verdict outcomes record r).error? = some e) (rs : List Rule) :
    c.failures outcomes record (r :: rs) = e :: c.failures outcomes record rs :=
  List.filterMap_cons_some failed

theorem errorsOf_cons (r : Rule) (rs : List Rule) :
    c.errorsOf outcomes record (r :: rs) = do
      match ← c.step outcomes record r with
      | none => c.errorsOf outcomes record rs
      | some e => return e :: (← c.errorsOf outcomes record rs) := by
  rw [step, bind_assoc]
  rfl

/-- Rules that do not break put their errors and their history before those of the rules after
them. -/
theorem errorsOf_append {before : List Rule}
    (unbroken : ∀ r ∈ before, (c.verdict outcomes record r).fault? = none) (rest : List Rule) :
    c.errorsOf outcomes record (before ++ rest) =
      ((c.failures outcomes record before ++ ·) <$> c.errorsOf outcomes record rest).after
        (before.flatMap (c.history outcomes record)) := by
  induction before with
  | nil =>
      change _ = Run.after [] ((fun es => es) <$> _)
      rw [id_map', Run.after_nil]
      rfl
  | cons r before ih =>
      have answer := Verdict.answer_of_unbroken (unbroken r List.mem_cons_self)
      have later := ih fun q mem => unbroken q (List.mem_cons_of_mem _ mem)
      rw [List.cons_append, errorsOf_cons, step_eq, Run.bind_ok answer, later, List.flatMap_cons,
        ← Run.after_after]
      cases found : (c.verdict outcomes record r).error? with
      | none => rw [failures_cons_none outcomes c record found]
      | some e =>
          dsimp only
          rw [failures_cons_some outcomes c record found, ← map_eq_pure_bind, Run.map_after,
            Functor.map_map]
          rfl

/-- Rules that do not break come to the errors of those that failed. -/
theorem errorsOf_unbroken {rs : List Rule}
    (unbroken : ∀ r ∈ rs, (c.verdict outcomes record r).fault? = none) :
    c.errorsOf outcomes record rs =
      ⟨.ok (c.failures outcomes record rs), rs.flatMap (c.history outcomes record)⟩ := by
  have whole := errorsOf_append outcomes c record unbroken []
  rw [List.append_nil] at whole
  rw [whole]
  refine Run.ext ?_ (List.append_nil _)
  exact congrArg Except.ok (List.append_nil _)

/-- The first rule that breaks ends the pass, whatever comes after it. -/
theorem errorsOf_broken {before : List Rule} {r : Rule} {f : Fault}
    (unbroken : ∀ q ∈ before, (c.verdict outcomes record q).fault? = none)
    (broken : (c.verdict outcomes record r).fault? = some f) (after : List Rule) :
    c.errorsOf outcomes record (before ++ r :: after) =
      ⟨.error f, (before ++ [r]).flatMap (c.history outcomes record)⟩ := by
  rw [errorsOf_append outcomes c record unbroken, errorsOf_cons, step_eq,
    Run.bind_error (Verdict.answer_of_broken broken), List.flatMap_append, List.flatMap_singleton]
  rfl

/-! ### Failures and faults of rules -/

/-- The error of a rule is about the rule's path. -/
theorem path_of_error? {r : Rule} {e : Error}
    (found : (c.verdict outcomes record r).error? = some e) : e.path = r.path := by
  unfold verdict at found
  split at found
  · cases found
  · split at found
    · cases found
    · split at found <;> cases found
      rfl

/-- The errors for an attribute are those of the rules for it. -/
theorem errorsFor_failures (a : String) (rs : List Rule) :
    ErrorSet.errorsFor a (c.failures outcomes record rs) =
      c.failures outcomes record (rs.filter fun r => r.path.text == a) := by
  induction rs with
  | nil => rfl
  | cons r rs ih =>
      cases found : (c.verdict outcomes record r).error? with
      | none =>
          rw [failures_cons_none outcomes c record found, ih, List.filter_cons]
          split
          · rw [failures_cons_none outcomes c record found]
          · rfl
      | some e =>
          have same : e.attribute = r.path.text :=
            congrArg Label.text (path_of_error? outcomes c record found)
          rw [failures_cons_some outcomes c record found, ErrorSet.errorsFor, List.filter_cons,
            List.filter_cons, same]
          split
          · rw [failures_cons_some outcomes c record found, ← ih]
            rfl
          · exact ih

def fails (r : Rule) : Bool := (c.verdict outcomes record r).error?.isSome

theorem attribute_failures (rs : List Rule) :
    (c.failures outcomes record rs).map Error.attribute =
      (rs.filter (c.fails outcomes record)).map fun r => r.path.text := by
  induction rs with
  | nil => rfl
  | cons r rs ih =>
      cases found : (c.verdict outcomes record r).error? with
      | none =>
          have passes : ¬ c.fails outcomes record r = true := by simp [fails, found]
          rw [failures_cons_none outcomes c record found, List.filter_cons_of_neg passes, ih]
      | some e =>
          have failed : c.fails outcomes record r = true := by simp [fails, found]
          have same : e.attribute = r.path.text :=
            congrArg Label.text (path_of_error? outcomes c record found)
          rw [failures_cons_some outcomes c record found, List.filter_cons_of_pos failed,
            List.map_cons, List.map_cons, same, ih]

/-- Where no rule breaks, there are no errors exactly when every rule is satisfied. -/
theorem failures_isEmpty_iff {rs : List Rule}
    (unbroken : ∀ r ∈ rs, (c.verdict outcomes record r).fault? = none) :
    (c.failures outcomes record rs).isEmpty = true ↔
      ∀ r ∈ rs, c.verdict outcomes record r = .satisfied := by
  rw [List.isEmpty_iff, failures, List.filterMap_eq_nil_iff]
  constructor
  · intro none r mem
    have passed := none r mem
    have whole := unbroken r mem
    cases x : c.verdict outcomes record r with
    | satisfied => rfl
    | failed e => rw [x] at passed; cases passed
    | broken f => rw [x] at whole; cases whole
  · intro all r mem
    rw [all r mem]
    rfl

/-- A path is refused with the same words whatever is wrong with it. -/
theorem fault_of_checkPath {path : Label} {f : Fault} (refused : c.checkPath path = .error f) :
    f = .badPath (.text path) (.ofString "contains an empty segment") := by
  unfold checkPath at refused
  split at refused
  · cases refused
    rfl
  · cases refused

/-- A rule breaks in one of three ways: its path is refused, the record faults while the path is
resolved, or a leaf that is asked faults. -/
theorem fault?_verdict (r : Rule) (f : Fault) :
    (c.verdict outcomes record r).fault? = some f ↔
      (c.checkPath r.path ≠ .ok () ∧
        f = .badPath (.text r.path) (.ofString "contains an empty segment")) ∨
      (c.checkPath r.path = .ok () ∧ ∃ origin, c.resolve record r.path = .error origin ∧
        f = .resolution (.text r.path) (.ofString r.expr.name) (.fault origin)) ∨
      (c.checkPath r.path = .ok () ∧ ∃ v, c.resolve record r.path = .ok v ∧
        ∃ leaf ∈ (r.expr.read outcomes v).asked, ∃ origin,
          outcomes leaf.1 v leaf.2 = .error origin ∧
          f = if origin.isEngine then origin
            else .evaluation (.text r.path) (.ofString leaf.1.key) (.fault origin)) := by
  cases path : c.checkPath r.path with
  | error g =>
      have broken : c.verdict outcomes record r = .broken g := by simp only [verdict, path]
      have words := fault_of_checkPath c path
      rw [broken]
      constructor
      · intro same
        cases same
        exact .inl ⟨nofun, words⟩
      · rintro (⟨_, same⟩ | ⟨accepted, _⟩ | ⟨accepted, _⟩)
        · exact congrArg some (words.trans same.symm)
        · cases accepted
        · cases accepted
  | ok u =>
      cases value : c.resolve record r.path with
      | error g =>
          have broken : c.verdict outcomes record r =
              .broken (.resolution (.text r.path) (.ofString r.expr.name) (.fault g)) := by
            simp only [verdict, path, value]
          rw [broken]
          constructor
          · intro same
            cases same
            exact .inr (.inl ⟨rfl, g, rfl, rfl⟩)
          · rintro (⟨refused, _⟩ | ⟨_, _, same, rfl⟩ | ⟨_, _, answered, _⟩)
            · exact absurd rfl refused
            · cases same
              rfl
            · cases answered
      | ok v =>
          have raised := Expr.failureBy_error_iff outcomes r.path v r.expr f
          have broken : (c.verdict outcomes record r).fault? = some f ↔
              (r.failureBy outcomes v).answer = .error f := by
            simp only [verdict, path, value]
            split
            · next g asked => simp [asked, Verdict.fault?]
            · next asked => simp [asked, Verdict.fault?]
            · next blamed asked => simp [asked, Verdict.fault?]
          rw [broken, Rule.failureBy, raised]
          constructor
          · intro found
            exact .inr (.inr ⟨rfl, v, rfl, found⟩)
          · rintro (⟨refused, _⟩ | ⟨_, _, failed, _⟩ | ⟨_, _, same, found⟩)
            · exact absurd rfl refused
            · cases failed
            · cases same
              exact found

end Pass

/-- An evaluation is one pass over the rules from the left, by their verdicts. If no rule breaks,
its result holds for every attribute exactly the errors of the failed rules for it in their order,
has the attributes in the order of their first failure, counts the failed rules, and is a success
just when every rule is satisfied. Otherwise it ends in the fault of the first rule that breaks, and
nothing has happened but the history of the rules up to that one. A rule breaks when its path is
refused, when the record faults while the path is resolved, or when a leaf that is asked faults; the
fault names the path, and a fault of the engine stays as it is. -/
theorem evaluateBy_eq_pass (outcomes : Outcomes) (c : Config) (rs : RuleSet) (record : Value) :
    ((∀ r ∈ rs.rules, (c.verdict outcomes record r).fault? = none) →
      ∃ result : Result, c.evaluateBy outcomes rs record =
          ⟨.ok result, rs.rules.flatMap (c.history outcomes record) ++
            [.logged (.summary rs.rules.length result.errors.length)]⟩ ∧
        (∀ a, result.errors.forAttribute a =
          (rs.forPath a).filterMap fun r => (c.verdict outcomes record r).error?) ∧
        result.errors.attributes.map Label.text =
          ((rs.rules.filter (c.fails outcomes record)).map fun r => r.path.text).eraseDups ∧
        result.errors.length = rs.rules.countP (c.fails outcomes record) ∧
        (result.success = true ↔ ∀ r ∈ rs.rules, c.verdict outcomes record r = .satisfied)) ∧
    (∀ before r after f, rs.rules = before ++ r :: after →
      (∀ q ∈ before, (c.verdict outcomes record q).fault? = none) →
      (c.verdict outcomes record r).fault? = some f →
      c.evaluateBy outcomes rs record =
        ⟨.error f, (before ++ [r]).flatMap (c.history outcomes record)⟩) ∧
    ∀ r f, (c.verdict outcomes record r).fault? = some f ↔
      (c.checkPath r.path ≠ .ok () ∧
        f = .badPath (.text r.path) (.ofString "contains an empty segment")) ∨
      (c.checkPath r.path = .ok () ∧ ∃ origin, c.resolve record r.path = .error origin ∧
        f = .resolution (.text r.path) (.ofString r.expr.name) (.fault origin)) ∨
      (c.checkPath r.path = .ok () ∧ ∃ v, c.resolve record r.path = .ok v ∧
        ∃ leaf ∈ (r.expr.read outcomes v).asked, ∃ origin,
          outcomes leaf.1 v leaf.2 = .error origin ∧
          f = if origin.isEngine then origin
            else .evaluation (.text r.path) (.ofString leaf.1.key) (.fault origin)) := by
  refine ⟨fun unbroken => ?_, ?_, fault?_verdict outcomes c record⟩
  · have errors := errorsOf_unbroken outcomes c record unbroken
    refine ⟨⟨.ofList (c.failures outcomes record rs.rules)⟩, ?_, fun a => ?_, ?_, ?_, ?_⟩
    · rw [evaluateBy, Run.bind_ok (congrArg Run.answer errors), ErrorSet.length_ofList, errors]
      rfl
    · rw [ErrorSet.forAttribute_ofList, errorsFor_failures]
      rfl
    · rw [ErrorSet.attributes_ofList, ErrorSet.attributesOf, attribute_failures]
    · rw [ErrorSet.length_ofList, failures, List.length_filterMap_eq_countP]
      rfl
    · rw [Result.success, ErrorSet.isEmpty_ofList]
      exact failures_isEmpty_iff outcomes c record unbroken
  · intro before r after f split unbroken broken
    rw [evaluateBy, split, errorsOf_broken outcomes c record unbroken broken]
    rfl

end Config

end RecordRules
