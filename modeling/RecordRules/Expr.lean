import RecordRules.Predicate.Test
import RecordRules.Run

/-!
Predicate expressions.

An expression is a predicate with its parameters or a combination of expressions. Asked about a
value, it either is satisfied or blames one expression: a combination by `and` passes on the blame
of its first operand that is not satisfied, one by `or` and a negation blame themselves. Operands
are asked from the left, and no more of them than decide the answer.

How a predicate answers is a parameter here: `failureBy` takes the outcomes of predicates as given,
and `failure` takes those of the predicates' own tests. Likewise `bindBy` takes the checks of
parameters as given, and `bind` those of the predicates themselves.
-/

namespace RecordRules

/-- What predicates make of parameters when these are bound: nothing, or a fault. -/
abbrev Checks := Predicate → List Value → Except Fault Unit

/-- A predicate with parameters that it accepts, when parameters are checked in the given way. -/
def Expr.bindBy (checks : Checks) (p : Predicate) (params : List Value) : Except Fault Expr := do
  if params.length ≠ p.arity then
    throw (.definition (.parameterCount p.key p.arity params.length))
  checks p params
  return .bound p params

def Expr.bind (p : Predicate) (params : List Value) : Except Fault Expr :=
  bindBy Predicate.check p params

def operandsOf (c : Connective) : List Value → Except Fault (List Expr)
  | [] => .ok []
  | .expr e :: rest => (operandsOf c rest).map (e :: ·)
  | v :: _ => .error (.definition (.notOperand c v))

def Connective.leastOperands : Connective → Nat
  | .and | .or => 2
  | .not => 1

def Expr.combine (c : Connective) (operands : List Value) : Except Fault Expr := do
  if operands.length < c.leastOperands then
    throw (.definition (.fewOperands c c.leastOperands))
  let es ← operandsOf c operands
  match c, es with
  | .and, _ => return .all es
  | .or, _ => return .any es
  | .not, e :: _ => return .negation e
  | .not, [] => throw (.definition (.fewOperands c c.leastOperands))

/-- The outcomes of predicates for a value and parameters: an answer or a fault. -/
abbrev Outcomes := Predicate → Value → List Value → Except Fault Bool

namespace Expr

/-- The name by which an expression is blamed. -/
def name : Expr → String
  | .bound p _ => p.key
  | .all _ => Connective.and.text
  | .any _ => Connective.or.text
  | .negation _ => Connective.not.text

def expected : Expr → Value
  | .bound _ [] => .none
  | .bound _ [param] => param
  | .bound _ params => .tuple params
  | .all es | .any es => .tuple (es.map .expr)
  | .negation e => .expr e

/-- The fault of a predicate as the fault of an evaluation: one of the engine stays as it is, any
other is attributed to the path and the predicate. -/
def blameFault (path : Label) (p : Predicate) (f : Fault) : Fault :=
  if f.isEngine then f else .evaluation (.text path) (.ofString p.key) (.fault f)

def ask (outcomes : Outcomes) (path : Label) (v : Value) (p : Predicate) (params : List Value) :
    Run Bool :=
  ⟨match outcomes p v params with
    | .ok b => .ok b
    | .error f => .error (blameFault path p f),
    [.called p v params]⟩

mutual

/-- The expression to blame for a value, or nothing if the value satisfies the expression, when
predicates have the given outcomes. -/
def failureBy (outcomes : Outcomes) (path : Label) (v : Value) : Expr → Run (Option Expr)
  | .bound p params => do
    if ← ask outcomes path v p params then return none else return some (.bound p params)
  | .all es => firstFailure outcomes path v es
  | .any es => do
    if ← anySatisfied outcomes path v es then return none else return some (.any es)
  | .negation e => do
    match ← e.failureBy outcomes path v with
    | none => return some (.negation e)
    | some _ => return none
termination_by structural e => e

/-- The blame of the first operand that is not satisfied. -/
def firstFailure (outcomes : Outcomes) (path : Label) (v : Value) :
    List Expr → Run (Option Expr)
  | [] => return none
  | e :: es => do
    match ← e.failureBy outcomes path v with
    | none => firstFailure outcomes path v es
    | some blamed => return some blamed
termination_by structural es => es

def anySatisfied (outcomes : Outcomes) (path : Label) (v : Value) : List Expr → Run Bool
  | [] => return false
  | e :: es => do
    match ← e.failureBy outcomes path v with
    | none => return true
    | some _ => anySatisfied outcomes path v es
termination_by structural es => es

end

/-- The expression to blame for a value, or nothing if the value satisfies the expression. -/
def failure (path : Label) (v : Value) (e : Expr) : Run (Option Expr) :=
  e.failureBy Predicate.test path v

/-- The path that stands for no path in a fault. -/
def unboundPath : Label := .plain "<unbound>"

/-- Whether a value satisfies an expression, when predicates have the given outcomes. -/
def satisfactionBy (outcomes : Outcomes) (path : Label) (v : Value) (e : Expr) : Run Bool := do
  return (← e.failureBy outcomes path v).isNone

def isSatisfiedBy (e : Expr) (v : Value) : Run Bool :=
  e.satisfactionBy Predicate.test unboundPath v

mutual

/-- The entries of an expression as part of a rule document. -/
def entries : Expr → List (String × Value)
  | .bound p params => [("predicate", .ofString p.key), ("params", .list params)]
  | .all es => [("op", .ofString Connective.and.text), ("operands", .list (operandEntries es))]
  | .any es => [("op", .ofString Connective.or.text), ("operands", .list (operandEntries es))]
  | .negation e =>
    [("op", .ofString Connective.not.text), ("operands", .list [.object e.entries])]
termination_by structural e => e

def operandEntries : List Expr → List Value
  | [] => []
  | e :: es => .object e.entries :: operandEntries es
termination_by structural es => es

end

def toDict (e : Expr) : Value := .object e.entries

end Expr

end RecordRules
