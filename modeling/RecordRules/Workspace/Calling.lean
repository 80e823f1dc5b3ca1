import RecordRules.Fault.Report
import RecordRules.Workspace.Making

/-!
Calling operations of objects, by name.
-/

namespace RecordRules

namespace Action

def register (handle : Nat) (v : Value) : Action Unit := do
  match v with
  | .predicate p => setRegistry handle ((← get).registryAt handle |>.register p)
  | _ => noPart v "name"

def registerAll (handle : Nat) : List Value → Action Unit
  | [] => return ()
  | v :: vs => do
    register handle v
    registerAll handle vs

def callRegistry (handle : Nat) (method : String) (a : Arguments) : Action Value := do
  let reg := (← get).registryAt handle
  let name := (a.getD 0 "name" .none).nameKey
  match method with
  | "register" => do
    register handle (a.getD 0 "predicate" .none)
    return .none
  | "register_all" => do
    registerAll handle a.positional
    return .none
  | "register_func" => do
    let p ← functionPredicate (a.getD 0 "name" .none) (a.getD 1 "fn" .none)
      (a.getD 2 "arity" (.int 0))
    setRegistry handle (reg.register p)
    return .predicate p
  | "unregister" => do
    setRegistry handle (reg.unregister name)
    return .none
  | "get" => return ((reg.get? name).map .predicate).getD .none
  | "has" => return .bool (reg.has name)
  | "resolve" => return .predicate (← ofExcept (reg.resolve name))
  | "evaluate" =>
    return .bool (← ofRun (reg.evaluate name (a.getD 1 "value" .none) (a.positional.drop 2)))
  | _ => noPart (.registry handle) method

def callPredicate (p : Predicate) (method : String) (a : Arguments) : Action Value := do
  match method with
  | "evaluate" =>
    let v := a.getD 0 "value" .none
    let params := a.positional.drop 1
    return .bool (← ofRun ⟨p.test v params, [.called p v params]⟩)
  | "check_params" => do
    made (p.check a.positional)
    return .none
  | _ => noPart (.predicate p) method

def callExpr (e : Expr) (method : String) (a : Arguments) : Action Value := do
  match method with
  | "failure" => do
    let path := (a.get? 1 "attribute").map Value.label
    let blamed ← ofRun (e.failure (path.getD Expr.unboundPath) (a.getD 0 "value" .none))
    return (blamed.map .expr).getD .none
  | "is_satisfied_by" => return .bool (← ofRun (e.isSatisfiedBy (a.getD 0 "value" .none)))
  | "to_dict" => return e.toDict
  | _ => noPart (.expr e) method

def callRule (r : Rule) (method : String) (a : Arguments) : Action Value := do
  match method with
  | "failure" => do
    let blamed ← ofRun (r.failure (a.getD 0 "value" .none))
    return (blamed.map .expr).getD .none
  | "to_dict" => return r.toDict
  | _ => noPart (.rule r) method

def rulesFor (rs : RuleSet) (path : Value) : List Value :=
  match path.text? with
  | some text => (rs.forPath text).map .rule
  | none => []

/-- The errors for an attribute, which has to be usable as a key. -/
def errorsFor (es : ErrorSet) (path : Value) : Action Value := do
  let _ ← ofExcept path.hashKey
  match path.text? with
  | some text => return .list ((es.forAttribute text).map .error)
  | none => return .list []

def callErrorSet (es : ErrorSet) (method : String) (a : Arguments) : Action Value := do
  match method with
  | "for_attribute" => errorsFor es (a.getD 0 "attribute" .none)
  | "is_empty" => return .bool es.isEmpty
  | "merge" => do
    match a.getD 0 "other" .none with
    | .errorSet other => return .errorSet (es.merge other)
    | other =>
      let errors ← errorsOf (← itemsOf other)
      return .errorSet (.ofList (es.toList ++ errors))
  | "to_dict" => return es.toDict
  | _ => noPart (.errorSet es) method

/-- An operation of a builder. Its steps answer with the builder itself. -/
def callBuilder (handle : Nat) (method : String) (a : Arguments) : Action Value := do
  let b := (← get).builderAt handle
  let stay (next : Builder) : Action Value := do
    setRules handle next
    return .builder handle
  match method with
  | "predicate" =>
    return .expr (← made (b.predicate (a.getD 0 "name" .none) (a.positional.drop 1)))
  | "validates" => do
    stay (← made (b.validates (a.getD 0 "attribute" .none) (a.getD 1 "name" .none)
      (a.positional.drop 2)))
  | "rule" => do
    stay (← made (b.rule (a.getD 0 "attribute" .none) (a.getD 1 "expression" .none)))
  | "extend" => do
    stay (b.extend (← ruleSet (a.getD 0 "rule_set" .none)))
  | "build" => return .ruleSet b.build
  | "reset" => stay b.reset
  | _ => noPart (.builder handle) method

def callEvaluator (c : Config) (method : String) (a : Arguments) : Action Value := do
  match method with
  | "evaluate" => evaluate c (a.getD 0 "rule_set" .none) (a.getD 1 "record" .none)
  | "check_path" => do
    ofExcept (c.checkPath (a.getD 0 "attribute" .none).label)
    return .none
  | "resolve" =>
    ofExcept (c.resolve (a.getD 0 "record" .none) (a.getD 1 "attribute" .none).label)
  | _ => noPart (.evaluator c) method

def call (v : Value) (method : String) (a : Arguments) : Action Value := do
  match v, method with
  | .registry handle, _ => callRegistry handle method a
  | .predicate p, _ => callPredicate p method a
  | .expr e, _ => callExpr e method a
  | .rule r, _ => callRule r method a
  | .ruleSet rs, "for_attribute" => return .tuple (rulesFor rs (a.getD 0 "attribute" .none))
  | .ruleSet rs, "to_dict" => return rs.toDict
  | .error e, "to_dict" => return e.toDict
  | .errorSet es, _ => callErrorSet es method a
  | .result r, "to_dict" => return r.toDict
  | .result r, "merge" =>
    match a.getD 0 "other" .none with
    | .result other => return .result (r.merge other)
    | other => noPart other "errors"
  | .builder handle, _ => callBuilder handle method a
  | .evaluator c, _ => callEvaluator c method a
  | .validator _ _ rules c record, "validate" => evaluate c (.ruleSet rules) record
  | .fault (.plain kind arguments), _ => noPart (.fault (.plain kind arguments)) method
  | .fault f, "to_dict" => return f.report
  | _, _ => noPart v method

end Action

end RecordRules
