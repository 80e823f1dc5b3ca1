import RecordRules.Document.Build
import RecordRules.Workspace.Basic

/-!
Making objects, by the name of what is made.

Arguments are given in order or by name.
-/

namespace RecordRules

structure Arguments where
  positional : List Value
  named : List (String × Value)

namespace Arguments

def get? (a : Arguments) (i : Nat) (name : String) : Option Value :=
  (a.positional[i]?).or (a.named.lookup name)

/-- The argument in a place or with a name, or else another value. -/
def getD (a : Arguments) (i : Nat) (name : String) (other : Value) : Value :=
  (a.get? i name).getD other

/-- The names of some parameters in quotes, in a sentence. -/
def enumerate (names : List String) : String :=
  let quoted := names.map fun n => "'" ++ n ++ "'"
  match quoted.reverse with
  | [] => ""
  | [one] => one
  | [last, first] => first ++ " and " ++ last
  | last :: others => ", ".intercalate others.reverse ++ ", and " ++ last

/-- The arguments for some parameters, all of which have to be given. -/
def required (a : Arguments) (owner : String) (offset : Nat) (names : List String) :
    Action (List Value) := do
  let found := names.zipIdx.map fun (n, i) => (n, a.get? (offset + i) n)
  let missing := found.filterMap fun (n, v) => if v.isNone then some n else none
  if missing.isEmpty then return found.filterMap (·.2)
  else
    let count := missing.length
    Action.unsupported (owner ++ " missing " ++ Number.showNat count ++
      " required positional argument" ++ (if count = 1 then "" else "s") ++ ": " ++
      enumerate missing)

end Arguments

/-- Text as a label; any other value by how it reads. -/
def Value.label : Value → Label
  | .text label => label
  | v => .plain v.shown

def Value.asFunction : Value → Function
  | .function f => f
  | v => .other v.className

namespace Action

/-- The registry that a value is, or a new standard one when there is none. -/
def registryOf (v : Value) : Action Nat :=
  match v with
  | .registry handle => return handle
  | _ => newStandardRegistry

def functionPredicate (name f arity : Value) : Action Predicate := do
  match arity.integer? with
  | some n => ofExcept (Predicate.ofFunction (← newTags 1) name f.asFunction n)
  | none => fault (.noOrder .lt arity.operandName "int")

def boundPredicate (p : Value) (params : List Value) : Action Value :=
  match p with
  | .predicate p => return .expr (← made (Expr.bind p params))
  | v => noPart v "arity"

def ruleSet (v : Value) : Action RuleSet := do
  made (RuleSet.make (← itemsOf v))

def errorsOf : List Value → Action (List Error)
  | [] => return []
  | .error e :: rest => return e :: (← errorsOf rest)
  | v :: _ => noPart v "attribute"

def evaluate (c : Config) (rules record : Value) : Action Value :=
  match rules with
  | .ruleSet rs => return .result (← ofRun (c.evaluate rs record))
  | v => fault (.definition (.notRuleSet v.className))

/-- A class of validators: its rules and its evaluator default to none and the standard one. -/
def validatorClass (name rules evaluator : Option Value) : Action Value := do
  let title := (name.map Value.shown).getD ""
  let c :=
    match evaluator with
    | some (.evaluator c) => c
    | _ => .standard
  match rules with
  | none => return .validatorClass title .empty c
  | some (.ruleSet rs) => return .validatorClass title rs c
  | some v => fault (.definition (.notRules title v.className))

def validator (cls record : Value) : Action Value :=
  match cls with
  | .validatorClass name rules c => return .validator (← newTags 1) name rules c record
  | v => unsupported ("'" ++ v.operandName ++ "' object is not callable")

def evaluator (settings : Value) : Action Value :=
  match settings with
  | .config c => return .evaluator c
  | _ => return .evaluator .standard

/-- The fault that a class name and its arguments stand for. -/
def madeFault (what : String) (a : Arguments) : Action Value := do
  match what with
  | "PredicateNotFoundError" => do
    match ← a.required "PredicateNotFoundError.__init__()" 0 ["name", "valid_predicates"] with
    | [name, valid] =>
      return .fault (.unknownPredicate name.label ((← itemsOf valid).map Value.label))
    | _ => return .none
  | "RuleDefinitionError" => do
    match ← a.required "RuleDefinitionError.__init__()" 0 ["message"] with
    | [message] => return .fault (.definition (.stated message (a.getD 1 "path" .none)))
    | _ => return .none
  | "InvalidAttributePathError" => do
    match ← a.required "InvalidAttributePathError.__init__()" 0 ["attribute", "reason"] with
    | [path, reason] => return .fault (.badPath path reason)
    | _ => return .none
  | "PredicateEvaluationError" => do
    match ← a.required "PredicateEvaluationError.__init__()" 0
        ["attribute", "rule_name", "original"] with
    | [path, ruleName, origin] => return .fault (.evaluation path ruleName origin)
    | _ => return .none
  | "AttributeResolutionError" => do
    match ← a.required "AttributeResolutionError.__init__()" 0
        ["attribute", "rule_name", "original"] with
    | [path, ruleName, origin] => return .fault (.resolution path ruleName origin)
    | _ => return .none
  | _ =>
    match Fault.ofClassName? what a.positional with
    | some f => return .fault f
    | none => unsupported ("name '" ++ what ++ "' is not defined")

/-- A predicate, an expression, a rule or a rule set. -/
def makeRules (what : String) (a : Arguments) : Action Value := do
  match what with
  | "FunctionPredicate" => do
    match ← a.required "FunctionPredicate.__init__()" 0 ["name", "fn"] with
    | [name, f] => return .predicate (← functionPredicate name f (a.getD 2 "arity" (.int 0)))
    | _ => return .none
  | "BoundPredicate" => do
    match ← a.required "BoundPredicate.__init__()" 0 ["predicate"] with
    | [p] => boundPredicate p (a.positional.drop 1)
    | _ => return .none
  | "AndPredicate" => return .expr (← made (Expr.combine .and a.positional))
  | "OrPredicate" => return .expr (← made (Expr.combine .or a.positional))
  | "NotPredicate" => do
    let operand ← a.required "NotPredicate.__init__()" 0 ["operand"]
    return .expr (← made (Expr.combine .not operand))
  | "Rule" => do
    match ← a.required "Rule.__init__()" 0 ["attribute", "predicate"] with
    | [path, e] => return .rule (← made (Rule.make path e))
    | _ => return .none
  | "RuleSet" => return .ruleSet (← ruleSet (a.getD 0 "rules" (.tuple [])))
  | "from_dict" => do
    let handle ← registryOf (a.getD 1 "registry" .none)
    let reg := (← get).registryAt handle
    return .ruleSet (← ofExcept (RuleSet.ofDocument reg (a.getD 0 "data" .none)))
  | "from_json" => do
    let handle ← registryOf (a.getD 1 "registry" .none)
    let reg := (← get).registryAt handle
    return .ruleSet (← ofExcept (RuleSet.ofJson reg (a.getD 0 "text" .none)))
  | _ =>
    match Builtin.all.find? fun b => b.title == what with
    | some b => return .predicate (.builtin (← newTags 1) b)
    | none => madeFault what a

def make (what : String) (a : Arguments) : Action Value := do
  match what with
  | "RuleSetBuilder" => do
    let handle ← registryOf (a.getD 0 "registry" .none)
    return .builder (← newBuilder ⟨handle, []⟩)
  | "PredicateRegistry" => return .registry (← newRegistry .empty)
  | "build_default_registry" => return .registry (← newStandardRegistry)
  | "Evaluator" => evaluator (a.getD 0 "config" .none)
  | "EvaluatorConfig" =>
    match Settings.read a.named with
    | .ok c => return .config c
    | .error problems => throw (.settings problems)
  | "Error" => do
    match ← a.required "Error.__init__()" 0 ["attribute", "rule_name", "expected", "actual"] with
    | [path, ruleName, expected, actual] =>
      return .error ⟨path.label, ruleName.label, expected, actual⟩
    | _ => return .none
  | "ErrorSet" => do
    let errors ← errorsOf (← itemsOf (a.getD 0 "errors" (.tuple [])))
    return .errorSet (.ofList errors)
  | "Result" =>
    match a.getD 0 "errors" (.errorSet .empty) with
    | .errorSet es => return .result ⟨es⟩
    | v => noPart v "is_empty"
  | "evaluate" => do
    match ← a.required "evaluate()" 0 ["rule_set", "record"] with
    | [rules, record] => evaluate .standard rules record
    | _ => return .none
  | "predicate_key" => return .ofString (a.getD 0 "name" .none).nameKey
  | "absent" => return .absent
  | "value" => return a.getD 0 "value" .none
  | "ValidatorClass" =>
    validatorClass (a.get? 0 "name") (a.get? 1 "rules") (a.get? 2 "evaluator")
  | "validator" => do
    match ← a.required "__init__()" 0 ["cls", "record"] with
    | [cls, record] => validator cls record
    | _ => return .none
  | _ => makeRules what a

end Action

end RecordRules
