import RecordRules.Fault.Report
import RecordRules.Workspace.Basic

/-!
The parts of objects, by name.
-/

namespace RecordRules

def Expr.part? (e : Expr) (name : String) : Option Value :=
  match name, e with
  | "name", _ => some (.ofString e.name)
  | "expected", _ => some e.expected
  | "predicate", .bound p _ => some (.predicate p)
  | "params", .bound _ params => some (.tuple params)
  | "operands", .all es | "operands", .any es => some (.tuple (es.map .expr))
  | "operand", .negation operand => some (.expr operand)
  | _, _ => none

def Fault.arguments : Fault → List Value
  | .plain _ arguments | .engine arguments => arguments
  | .definition d => [d.messageValue]
  | f => [.ofString f.message]

def Fault.part? (f : Fault) (name : String) : Option Value :=
  match name, f with
  | "args", _ => some (.tuple f.arguments)
  | "name", .unknownPredicate predicate _ => some (.text predicate)
  | "valid_predicates", .unknownPredicate _ valid => some (.list (valid.map .text))
  | "suggestions", .unknownPredicate predicate valid =>
    some (.list (Fault.suggestions predicate valid))
  | "message", .definition d => some d.messageValue
  | "path", .definition d => some d.path
  | "message", .badPath _ _ => some (.ofString f.message)
  | "path", .badPath path _ => some (.ofString path.shown)
  | "attribute", .badPath path _ => some path
  | "reason", .badPath _ reason => some reason
  | "attribute", .evaluation path _ _ | "attribute", .resolution path _ _ => some path
  | "rule_name", .evaluation _ ruleName _ | "rule_name", .resolution _ ruleName _ => some ruleName
  | "original", .evaluation _ _ origin | "original", .resolution _ _ origin => some origin
  | _, _ => none

def Config.part? (c : Config) (name : String) : Option Value :=
  match name with
  | "nested_paths" => some (.bool c.nestedPaths)
  | "path_separator" => some (.ofString c.separator)
  | "log_failures" => some (.bool c.logFailures)
  | _ => none

def validatorPart? (rules : RuleSet) (c : Config) (name : String) : Option Value :=
  match name with
  | "rules" => some (.ruleSet rules)
  | "evaluator" => some (.evaluator c)
  | _ => none

namespace Workspace

def part? (w : Workspace) (v : Value) (name : String) : Option Value :=
  match v, name with
  | .predicate p, "name" => some p.name
  | .predicate p, "arity" => some (.int p.arity)
  | .expr e, _ => e.part? name
  | .rule r, "attribute" => some (.text r.path)
  | .rule r, "predicate" => some (.expr r.expr)
  | .ruleSet rs, "rules" => some (.tuple (rs.rules.map .rule))
  | .ruleSet rs, "attributes" => some (.tuple (rs.paths.map .text))
  | .error e, "attribute" => some (.text e.path)
  | .error e, "rule_name" => some (.text e.ruleName)
  | .error e, "expected" => some e.expected
  | .error e, "actual" => some e.actual
  | .errorSet es, "attributes" => some (.tuple (es.attributes.map .text))
  | .result r, "errors" => some (.errorSet r.errors)
  | .result r, "success" => some (.bool r.success)
  | .result r, "failed" => some (.bool !r.success)
  | .config c, _ => c.part? name
  | .evaluator c, "config" => some (.config c)
  | .fault f, _ => f.part? name
  | .registry handle, "supported_predicates" =>
    some (.set false ((w.registryAt handle).names.map .ofString))
  | .builder handle, "registry" => (w.builders[handle]?).map fun cell => .registry cell.registry
  | .validatorClass className _ _, "__name__" => some (.ofString className)
  | .validatorClass _ rules c, _ => validatorPart? rules c name
  | .validator _ _ _ _ record, "record" => some record
  | .validator _ _ rules c _, _ => validatorPart? rules c name
  | .text (.name n), "value" => some (.ofString n.text)
  | .text (.name n), "name" => some (.ofString n.symbol)
  | _, _ => v.field? name

end Workspace

def Action.part (v : Value) (name : String) : Action Value := do
  match (← get).part? v name with
  | some part => return part
  | none => noPart v name

/-- Refuses to change a part of a value that never changes. -/
def Action.setPart (v : Value) (name : String) : Action Value :=
  match v with
  | .rule _ | .error _ | .result _ =>
    fault (.ofMessage .frozen ("cannot assign to field '" ++ name ++ "'"))
  | .config _ => throw (.settings [⟨"frozen_instance", name, "Instance is frozen"⟩])
  | _ => do
    match (← get).part? v name with
    | some _ =>
      fault (.ofMessage .noAttribute
        ("property '" ++ name ++ "' of '" ++ v.className ++ "' object has no setter"))
    | none => return .none

end RecordRules
