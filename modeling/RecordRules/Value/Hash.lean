import RecordRules.Value.Atom

/-!
The keys of values.

Sets and dictionaries find a value by its key. Most values are their own keys, and keys of such
values agree when the values are equal. A tuple's key is made of the keys of its items, a rule's of
its parts, and a report's of the attributes and the numbers of errors alone, as the errors may hold
values that have no key.

A value that can change has no key: asking for it is a fault. An expression always has one: where a
parameter has no key, the text of the parameters stands for them.
-/

namespace RecordRules

/-- What a value is found by. -/
inductive HashKey where
  | plain (v : Value)
  | sequence (keys : List HashKey)
  | members (keys : List HashKey)

instance : Inhabited HashKey := ⟨.sequence []⟩

/-- Whether the first of some keys agrees by a test, and the rest after it. -/
def agreeInOrder (agrees : List (HashKey → Bool)) (keys : List HashKey) : Bool :=
  agrees.length == keys.length && (agrees.zip keys).all fun p => p.1 p.2

/-- Whether each of some tests holds of some key. -/
def agreeInAnyOrder (agrees : List (HashKey → Bool)) (keys : List HashKey) : Bool :=
  agrees.length == keys.length && agrees.all fun test => keys.any test

mutual

/-- Whether two keys lead to the same place. -/
def HashKey.agrees : HashKey → HashKey → Bool
  | .plain v, .plain w =>
    match sameOr v w v.equalPlain with
    | .ok b => b
    | .error _ => false
  | .sequence ks, .sequence ls => agreeInOrder (agreeTests ks) ls
  | .members ks, .members ls => agreeInAnyOrder (agreeTests ks) ls
  | _, _ => false

def agreeTests : List HashKey → List (HashKey → Bool)
  | [] => []
  | k :: ks => k.agrees :: agreeTests ks

end

def Fault.noKey (className : String) : Fault :=
  .ofMessage .type ("unhashable type: '" ++ className ++ "'")

/-- The key of an expression with this name and the key of its parameters or operands. -/
def HashKey.named (name : String) (key : HashKey) : HashKey :=
  .sequence [.plain (.ofString name), key]

def Label.hashKey (label : Label) : HashKey :=
  .plain (.text label)

/-- The key of an error set: each attribute with the number of its errors. -/
def ErrorSet.hashKey (es : ErrorSet) : HashKey :=
  .sequence (es.groups.map fun g => .sequence [g.1.hashKey, .plain (.int g.2.length)])

def Config.hashKey (c : Config) : HashKey :=
  .sequence [.plain (.bool c.nestedPaths), .plain (.ofString c.separator),
    .plain (.bool c.logFailures)]

mutual

def Value.hashKey : Value → Except Fault HashKey
  | .list _ => .error (.noKey "list")
  | .set false _ => .error (.noKey "set")
  | .bytes true _ => .error (.noKey "bytearray")
  | .dict readOnly _ => .error (.noKey (if readOnly then "mappingproxy" else "dict"))
  | .mapping _ => .error (.noKey "CustomMap")
  | .record r => if r.comparison.isSome then .error (.noKey "Rec") else .ok (.plain (.record r))
  | .decimal tag x =>
    if x.isSignaling then .error (.ofMessage .type "Cannot hash a signaling NaN value")
    else .ok (.plain (.decimal tag x))
  | .tuple items => (hashKeys items).map .sequence
  | .set true items => (hashKeys items).map .members
  | .expr e => .ok e.hashKey
  | .rule r => .ok r.hashKey
  | .ruleSet ⟨rules⟩ => .ok (.sequence (ruleHashKeys rules))
  | .error ⟨path, ruleName, expected, actual⟩ => do
    let e ← expected.hashKey
    let a ← actual.hashKey
    return .sequence [path.hashKey, ruleName.hashKey, e, a]
  | .errorSet es => .ok es.hashKey
  | .result ⟨es⟩ => .ok (.sequence [es.hashKey])
  | .config c => .ok c.hashKey
  | v => .ok (.plain v)
termination_by structural v => v

def hashKeys : List Value → Except Fault (List HashKey)
  | [] => .ok []
  | v :: vs => do
    let k ← v.hashKey
    let ks ← hashKeys vs
    return k :: ks
termination_by structural vs => vs

def Expr.hashKey : Expr → HashKey
  | .bound p params =>
    match hashKeys params with
    | .ok keys => .named p.key (.sequence keys)
    | .error _ => .named p.key (.plain (.ofString (tupleText (literals params))))
  | .all es => .named "and" (.sequence (operandHashKeys es))
  | .any es => .named "or" (.sequence (operandHashKeys es))
  | .negation e => .named "not" e.hashKey
termination_by structural e => e

def operandHashKeys : List Expr → List HashKey
  | [] => []
  | e :: es => e.hashKey :: operandHashKeys es
termination_by structural es => es

def Rule.hashKey : Rule → HashKey
  | ⟨path, e⟩ => .sequence [path.hashKey, e.hashKey]
termination_by structural r => r

def ruleHashKeys : List Rule → List HashKey
  | [] => []
  | r :: rs => r.hashKey :: ruleHashKeys rs
termination_by structural rs => rs

end

/-- Whether two values have keys, and these agree. -/
def Value.keysAgree (a b : Value) : Bool :=
  match a.hashKey, b.hashKey with
  | .ok k, .ok l => k.agrees l
  | _, _ => false

end RecordRules
