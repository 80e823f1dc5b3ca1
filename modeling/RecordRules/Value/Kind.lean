import RecordRules.Text.Blank
import RecordRules.Value

/-!
What a value is an instance of.

`className` names the class that a value itself belongs to, and `isA` says which of the classes a
value is an instance of: an integer is also an integral, rational, real and complex number, a truth
value is also an integer, a moment is also a date, and the name of a predicate is also text.
-/

namespace RecordRules

def FaultKind.className : FaultKind → String
  | .value => "ValueError"
  | .key => "KeyError"
  | .noAttribute => "AttributeError"
  | .type => "TypeError"
  | .zeroDivision => "ZeroDivisionError"
  | .runtime => "RuntimeError"
  | .index => "IndexError"
  | .lookup => "LookupError"
  | .overflow => "OverflowError"
  | .invalidOperation => "InvalidOperation"
  | .pattern => "error"
  | .decode => "UnicodeDecodeError"
  | .frozen => "FrozenInstanceError"
  | .recursion => "RecursionError"

def FaultKind.ofClassName? : String → Option FaultKind
  | "ValueError" => some .value
  | "KeyError" => some .key
  | "AttributeError" => some .noAttribute
  | "TypeError" => some .type
  | "ZeroDivisionError" => some .zeroDivision
  | "RuntimeError" => some .runtime
  | "IndexError" => some .index
  | "LookupError" => some .lookup
  | "OverflowError" => some .overflow
  | _ => none

/-- The classes of fault above a kind, nearest first. -/
def FaultKind.ancestors : FaultKind → List String
  | .key | .index => ["LookupError"]
  | .zeroDivision => ["ArithmeticError"]
  | .overflow => ["ArithmeticError"]
  | .invalidOperation => ["DecimalException", "ZeroDivisionError", "ArithmeticError"]
  | .decode => ["UnicodeError", "ValueError"]
  | .frozen => ["AttributeError"]
  | .recursion => ["RuntimeError"]
  | _ => []

namespace Fault

def className : Fault → String
  | .plain kind _ => kind.className
  | .engine _ => "ValidationEngineError"
  | .unknownPredicate _ _ => "PredicateNotFoundError"
  | .definition _ => "RuleDefinitionError"
  | .badPath _ _ => "InvalidAttributePathError"
  | .evaluation .. => "PredicateEvaluationError"
  | .resolution .. => "AttributeResolutionError"

/-- Whether a fault belongs to the engine, rather than to the values that it works on. -/
def isEngine : Fault → Bool
  | .plain _ _ => false
  | _ => true

/-- Whether a fault is of some kind or of a kind below it. -/
def isKind (kind : FaultKind) : Fault → Bool
  | .plain k _ => k == kind || k.ancestors.contains kind.className
  | _ => false

def classNames (f : Fault) : List String :=
  let above :=
    match f with
    | .plain kind _ => kind.ancestors
    | .badPath _ _ => ["RuleDefinitionError", "ValidationEngineError"]
    | .engine _ => []
    | _ => ["ValidationEngineError"]
  f.className :: above ++ ["Exception", "BaseException", "object"]

end Fault

def Predicate.className : Predicate → String
  | .builtin _ b => b.title
  | .custom .. => "FunctionPredicate"

def Expr.className : Expr → String
  | .bound .. => "BoundPredicate"
  | .all _ => "AndPredicate"
  | .any _ => "OrPredicate"
  | .negation _ => "NotPredicate"

namespace Value

def className : Value → String
  | .none => "NoneType"
  | .absent => "_Absent"
  | .bool _ => "bool"
  | .int _ => "int"
  | .float _ _ => "float"
  | .decimal _ _ => "Decimal"
  | .complex _ _ _ => "complex"
  | .text (.plain _) => "str"
  | .text (.name _) => "PredicateName"
  | .bytes mutable _ => if mutable then "bytearray" else "bytes"
  | .date _ => "date"
  | .moment _ => "datetime"
  | .time _ => "time"
  | .range _ _ _ => "range"
  | .list _ => "list"
  | .tuple _ => "tuple"
  | .set frozen _ => if frozen then "frozenset" else "set"
  | .dict readOnly _ => if readOnly then "mappingproxy" else "dict"
  | .mapping _ => "CustomMap"
  | .record _ => "Rec"
  | .type .predicateName => "EnumType"
  | .type .number | .type .complexNumber | .type .real | .type .rational | .type .integral
  | .type .mapping => "ABCMeta"
  | .type _ => "type"
  | .regex _ => "Pattern"
  | .function (.other name) => name
  | .function _ => "function"
  | .fault f => f.className
  | .predicate p => p.className
  | .expr e => e.className
  | .rule _ => "Rule"
  | .ruleSet _ => "RuleSet"
  | .error _ => "Error"
  | .errorSet _ => "ErrorSet"
  | .result _ => "Result"
  | .config _ => "EvaluatorConfig"
  | .evaluator _ => "Evaluator"
  | .registry _ => "PredicateRegistry"
  | .builder _ => "RuleSetBuilder"
  | .validatorClass _ _ _ => "type"
  | .validator _ name _ _ _ => name

/-- The name of a value's class as operators quote it, with its module when the class has one. -/
def operandName (v : Value) : String :=
  match v with
  | .decimal _ _ => "decimal.Decimal"
  | .date _ => "datetime.date"
  | .moment _ => "datetime.datetime"
  | .time _ => "datetime.time"
  | .regex _ => "re.Pattern"
  | _ => v.className

def isA (v : Value) (c : Class) : Bool :=
  match c with
  | .object => true
  | .int | .rational | .integral =>
    match v with | .bool _ | .int _ => true | _ => false
  | .bool => match v with | .bool _ => true | _ => false
  | .float => match v with | .float _ _ => true | _ => false
  | .decimal => match v with | .decimal _ _ => true | _ => false
  | .complex => match v with | .complex _ _ _ => true | _ => false
  | .number =>
    match v with
    | .bool _ | .int _ | .float _ _ | .decimal _ _ | .complex _ _ _ => true
    | _ => false
  | .complexNumber =>
    match v with | .bool _ | .int _ | .float _ _ | .complex _ _ _ => true | _ => false
  | .real => match v with | .bool _ | .int _ | .float _ _ => true | _ => false
  | .str => match v with | .text _ => true | _ => false
  | .predicateName => match v with | .text (.name _) => true | _ => false
  | .bytes => match v with | .bytes false _ => true | _ => false
  | .bytearray => match v with | .bytes true _ => true | _ => false
  | .list => match v with | .list _ => true | _ => false
  | .tuple => match v with | .tuple _ => true | _ => false
  | .set => match v with | .set false _ => true | _ => false
  | .frozenset => match v with | .set true _ => true | _ => false
  | .dict => match v with | .dict false _ => true | _ => false
  | .mapping => match v with | .dict _ _ | .mapping _ => true | _ => false
  | .range => match v with | .range _ _ _ => true | _ => false
  | .none => match v with | .none => true | _ => false
  | .date => match v with | .date _ | .moment _ => true | _ => false
  | .datetime => match v with | .moment _ => true | _ => false
  | .time => match v with | .time _ => true | _ => false
  | .record => match v with | .record _ => true | _ => false

/-- Whether a value is missing: not there at all, or explicitly nothing. -/
def isMissing : Value → Bool
  | .none | .absent => true
  | _ => false

/-- Whether a value is missing or is text without anything but blanks. -/
def isBlank : Value → Bool
  | .text label => Text.isBlankText label.text
  | v => v.isMissing

def isClass : Value → Bool
  | .type _ | .validatorClass _ _ _ => true
  | _ => false

end Value

end RecordRules
