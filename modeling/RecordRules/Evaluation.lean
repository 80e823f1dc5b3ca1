import RecordRules.Report
import RecordRules.Resolution
import RecordRules.Rule

/-!
Evaluation of a rule set against a record.

The rules are taken once, in the order of their declaration. Each has its path checked and its value
resolved, and then its expression is asked; a rule that is not satisfied becomes an error of the
result. The first fault ends the evaluation: of a path, of the record, or of a predicate. The log
tells the failed rules, if the settings ask for it, then either the fault or a summary.

As for expressions, `evaluateBy` takes the outcomes of predicates as given, and `evaluate` takes
those of the predicates' own tests.
-/

namespace RecordRules

/-- A value as a report shows it: what is absent is shown as nothing. -/
def Value.reported : Value → Value
  | .absent => .none
  | v => v

def Rule.errorFor (r : Rule) (blamed : Expr) (v : Value) : Error :=
  ⟨r.path, .plain blamed.name, blamed.expected, v.reported⟩

namespace Config

/-- The value at a rule's path; a fault of the record is logged and attributed to the rule. -/
def valueFor (c : Config) (record : Value) (r : Rule) : Run Value :=
  match c.resolve record r.path with
  | .ok v => ⟨.ok v, [.resolved r.path]⟩
  | .error f =>
    ⟨.error (.resolution (.text r.path) (.ofString r.expr.name) (.fault f)),
      [.resolved r.path, .logged (.unresolved r.path r.expr.name f)]⟩

/-- The entry of the log about a fault of a predicate. -/
def brokenEntry : Fault → List Event
  | .evaluation path ruleName origin => [.logged (.broken path ruleName origin)]
  | _ => []

/-- The blame of a rule; a fault of a predicate is logged. -/
def blameFor (outcomes : Outcomes) (r : Rule) (v : Value) : Run (Option Expr) :=
  let x := r.failureBy outcomes v
  match x.answer with
  | .ok _ => x
  | .error f => ⟨.error f, x.events ++ brokenEntry f⟩

def evaluateRule (outcomes : Outcomes) (c : Config) (record : Value) (r : Rule) :
    Run (Option Error) := do
  let v ← c.valueFor record r
  match ← blameFor outcomes r v with
  | none => return none
  | some blamed =>
    let e := r.errorFor blamed v
    if c.logFailures then Run.emit (.logged (.failed e))
    return some e

def errorsOf (outcomes : Outcomes) (c : Config) (record : Value) : List Rule → Run (List Error)
  | [] => return []
  | r :: rs => do
    Run.ofExcept (c.checkPath r.path)
    match ← c.evaluateRule outcomes record r with
    | none => c.errorsOf outcomes record rs
    | some e => return e :: (← c.errorsOf outcomes record rs)

/-- The result of a rule set for a record, when predicates have the given outcomes. -/
def evaluateBy (outcomes : Outcomes) (c : Config) (rs : RuleSet) (record : Value) :
    Run Result := do
  let errors ← c.errorsOf outcomes record rs.rules
  Run.emit (.logged (.summary rs.rules.length errors.length))
  return ⟨ErrorSet.ofList errors⟩

def evaluate (c : Config) (rs : RuleSet) (record : Value) : Run Result :=
  c.evaluateBy Predicate.test rs record

end Config

end RecordRules
