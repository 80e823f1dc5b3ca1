import RecordRules.Value.Key
import RecordRules.Value.Length
import RecordRules.Value.Order

/-!
What the functions of custom predicates answer.

A function is given the value and the parameters of the predicate. It may answer with any value,
which then counts by its truth, or it may fail.
-/

namespace RecordRules

/-- The fault of a class with some arguments. A defect of a rule takes a message and a path. -/
def Fault.ofClassName? (className : String) (arguments : List Value) : Option Fault :=
  match className, arguments with
  | "ValidationEngineError", _ => some (.engine arguments)
  | "RuleDefinitionError", [message] => some (.definition (.stated message .none))
  | "RuleDefinitionError", [message, path] => some (.definition (.stated message path))
  | _, _ => (FaultKind.ofClassName? className).map fun kind => .plain kind arguments

namespace Function

/-- The remainder by two says whether an integer is even. -/
def evenness (v : Value) : Except Fault Value :=
  match v.integer? with
  | some i => .ok (.bool (i % 2 == 0))
  | none => .error (.ofMessage .type "even? needs an int")

/-- Whether a value lies between two bounds, asking for the lower one first. -/
def liesBetween (v low high : Value) : Except Fault Value := do
  if ← low.ordered .le v then return .bool (← v.ordered .le high) else return .bool false

def missingEntry (v : Value) : Except Fault Value :=
  match v with
  | .dict false entries =>
    let key := Value.ofString "missing"
    match lookupKey key entries with
    | some found => .ok found
    | none => .error (.plain .key [key])
  | _ => .error (.ofMessage .type "key? needs a dict")

/-- The fault that parameters name: its class, then its arguments. -/
def namedFault (params : List Value) : Fault :=
  match params with
  | className :: arguments =>
    (className.text?.bind fun name => Fault.ofClassName? name arguments).getD
      (.ofMessage .type "exceptions must derive from BaseException")
  | [] => .ofMessage .type "exceptions must derive from BaseException"

def answer (f : Function) (v : Value) (params : List Value) : Except Fault Value :=
  match f, params with
  | .constant b, _ | .spy b, _ => .ok (.bool b)
  | .identity, _ => .ok v
  | .even, _ => evenness v
  | .between, low :: high :: _ => liesBetween v low high
  | .between, _ => .error (.ofMessage .type "between() missing a required positional argument")
  | .entry, _ => missingEntry v
  | .divide, _ => .error (.ofMessage .zeroDivision "division by zero")
  | .fail, _ => .error (namedFault params)
  | .other className, _ =>
    .error (.ofMessage .type ("'" ++ className ++ "' object is not callable"))

/-- Whether the answer of a function counts as true. -/
def test (f : Function) (v : Value) (params : List Value) : Except Fault Bool := do
  (← f.answer v params).truth

end Function

end RecordRules
