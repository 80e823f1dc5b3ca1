import RecordRules.Workspace.Making
import RecordRules.Workspace.Parts

/-!
Operators on values, by name.
-/

namespace RecordRules

namespace Action

/-- Fails because an operator does not take two values. -/
def noOperator {α : Type} (sign : String) (a b : Value) : Action α :=
  unsupported ("unsupported operand type(s) for " ++ sign ++ ": '" ++ a.operandName ++ "' and '" ++
    b.operandName ++ "'")

def combineTwo (c : Connective) (sign : String) (a b : Value) : Action Value :=
  match a with
  | .expr _ => return .expr (← made (Expr.combine c [a, b]))
  | _ => noOperator sign a b

/-- An item of a list by its number, counted from the end when it is negative. -/
def itemAt? (items : List Value) (i : Int) : Option Value :=
  let j := if i < 0 then i + items.length else i
  if j < 0 then none else items[j.toNat]?

def item (v key : Value) : Action Value := do
  match v with
  | .errorSet es => do
    let _ ← ofExcept key.hashKey
    match key.text? with
    | some text => return .list ((es.forAttribute text).map .error)
    | none => return .list []
  | .dict _ entries => do
    let _ ← ofExcept key.hashKey
    match lookupKey key entries with
    | some found => return found
    | none => fault (.plain .key [key])
  | .mapping m => ofExcept (m.get key)
  | .list items | .tuple items =>
    match key.integer? with
    | some i =>
      match itemAt? items i with
      | some found => return found
      | none => fault (.ofMessage .index (v.className ++ " index out of range"))
    | none =>
      unsupported (v.className ++ " indices must be integers or slices, not " ++ key.operandName)
  | _ => unsupported ("'" ++ v.operandName ++ "' object is not subscriptable")

/-- Whether the keys of two values lead to the same place. -/
def sameHash (a b : Value) : Action Value := do
  let k ← ofExcept a.hashKey
  let l ← ofExcept b.hashKey
  return .bool (k.agrees l)

/-- Whether two values are one object: numbers, records and mappings by identity, and what never
changes by what it is made of. -/
def isSame (a b : Value) : Bool :=
  match a, b with
  | .float _ _, .float _ _ | .decimal _ _, .decimal _ _ | .complex _ _ _, .complex _ _ _
  | .record _, .record _ | .mapping _, .mapping _ => a.identical b
  | .text s, .text t => s == t
  | .int i, .int j => i == j
  | .bool x, .bool y => x == y
  | _, _ =>
    a.className == b.className && (match a.same b with | .ok same => same | .error _ => false)

def binary (op : String) (a b : Value) : Action Value := do
  match op with
  | "and" => combineTwo .and "&" a b
  | "or" => combineTwo .or "|" a b
  | "add" =>
    match a, b with
    | .ruleSet rs, .ruleSet ss => return .ruleSet (rs.append ss)
    | _, _ => noOperator "+" a b
  | "eq" => return .bool (← ofExcept (a.equal b))
  | "ne" => return .bool !(← ofExcept (a.equal b))
  | "is" => return .bool (isSame a b)
  | "contains" => return .bool (← ofExcept (a.contains b))
  | "item" => item a b
  | "hash_eq" => sameHash a b
  | "isinstance" =>
    match a with
    | .fault f => return .bool (f.classNames.contains b.shown)
    | _ => return .bool false
  | _ => noOperator op a b

/-- The parameters of a kind of fault that its message alone does not give. -/
def missingParameters : Fault → List String
  | .unknownPredicate _ _ => ["valid_predicates"]
  | .badPath _ _ => ["reason"]
  | .evaluation _ _ _ | .resolution _ _ _ => ["rule_name", "original"]
  | _ => []

/-- A copy of a value. What is told apart by its identity becomes another object, and a fault is made
anew from its message alone. -/
def copied (v : Value) : Action Value := do
  match v with
  | .record r => return .record { r with tag := ← newTags 1 }
  | .mapping m => return .mapping { m with tag := ← newTags 1 }
  | .predicate (.builtin _ b) => return .predicate (.builtin (← newTags 1) b)
  | .predicate (.custom _ name f arity) =>
    return .predicate (.custom (← newTags 1) name f arity)
  | .validator _ name rules c record => return .validator (← newTags 1) name rules c record
  | .dict true _ => unsupported ("cannot pickle '" ++ v.className ++ "' object")
  | .fault f => do
    let _ ← Arguments.required ⟨[], []⟩ (f.className ++ ".__init__()") 0 (missingParameters f)
    return v
  | _ => return v

def unary (op : String) (v : Value) : Action Value := do
  match op with
  | "not" =>
    match v with
    | .expr e => return .expr (.negation e)
    | .bool b => return .int (if b then -2 else -1)
    | .int i => return .int (-i - 1)
    | _ => unsupported ("bad operand type for unary ~: '" ++ v.operandName ++ "'")
  | "len" =>
    match v.length? with
    | some n => return .int (← ofExcept n)
    | none => unsupported ("object of type '" ++ v.operandName ++ "' has no len()")
  | "bool" => return .bool (← ofExcept v.truth)
  | "repr" => return .ofString v.literal
  | "str" => return .ofString v.shown
  | "iter" => return .list (← itemsOf v)
  | "hashable" => do
    let _ ← ofExcept v.hashKey
    return .bool true
  | _ => copied v

end Action

end RecordRules
