import RecordRules.Value.Display

/-!
Faults of the engine as dictionaries.

A report carries a code, the message or the parts that it is made of, and for a defect in a
definition the path to what is defective.
-/

namespace RecordRules

open Value (ofString object)

/-- Where a defect is: the predicate or connective it concerns, the place in a document, or the
path of a rule. -/
def Defect.path : Defect → Value
  | .stated _ path => path
  | .parameterCount name _ _ => ofString name
  | .notClass _ => ofString Builtin.type.text
  | .notPattern _ | .malformedPattern _ _ => ofString Builtin.format.text
  | .notCollection predicate _ | .notLength predicate _ => ofString predicate.text
  | .fewOperands connective _ | .notOperand connective _ => ofString connective.text
  | .notExpression path _ => .text path
  | .notRule _ | .notRuleSet _ | .notRules _ _ => .none
  | .unknownClass _ path | .emptyGroup _ path | .crowdedNegation path | .document _ path =>
    ofString path
  | .json _ | .notObject => ofString "<root>"

def Defect.messageValue : Defect → Value
  | .stated message _ => message
  | d => ofString d.message

/-- The class of the fault that a defect was noticed by, if it was noticed by one. -/
def Defect.cause? : Defect → Option String
  | .malformedPattern _ _ => some "error"
  | .document _ _ => some "ValidationError"
  | .json _ => some "JSONDecodeError"
  | _ => none

def Fault.suggestions (name : Label) (valid : List Label) : List Value :=
  (Similarity.suggestions name.text (valid.map Label.text)).map ofString

/-- The class of the fault that a fault was raised from, if there is one. -/
def Fault.cause? : Fault → Option String
  | .definition d => d.cause?
  | .evaluation _ _ origin | .resolution _ _ origin => some origin.className
  | _ => none

/-- The parts of a fault that came from a predicate or from a record. -/
def Fault.originReport (code : String) (path ruleName origin : Value) : Value :=
  object [("error", ofString code), ("attribute", path), ("rule", ruleName),
    ("cause", ofString origin.className), ("message", ofString origin.shown)]

def Fault.report : Fault → Value
  | .plain kind arguments =>
    object [("error", ofString kind.className),
      ("message", ofString (Fault.plain kind arguments).message)]
  | .engine arguments =>
    object [("error", ofString "ValidationEngineError"),
      ("message", ofString (Fault.engine arguments).message)]
  | .unknownPredicate name valid =>
    object [("error", ofString "PREDICATE_NOT_FOUND"), ("predicate", .text name),
      ("suggestions", .list (suggestions name valid)),
      ("valid_predicates",
        .list ((valid.mergeSort fun a b => !decide (b.text < a.text)).map .text))]
  | .definition d =>
    object [("error", ofString "RULE_DEFINITION_ERROR"), ("message", d.messageValue),
      ("path", d.path)]
  | .badPath path reason =>
    object [("error", ofString "INVALID_ATTRIBUTE_PATH"), ("attribute", ofString path.shown),
      ("reason", reason)]
  | .evaluation path ruleName origin =>
    originReport "PREDICATE_EVALUATION_ERROR" path ruleName origin
  | .resolution path ruleName origin =>
    originReport "ATTRIBUTE_RESOLUTION_ERROR" path ruleName origin

end RecordRules
