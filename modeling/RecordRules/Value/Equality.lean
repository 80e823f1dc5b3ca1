import RecordRules.Value.Hash

/-!
Equality of values.

Collections are equal item by item, sets and dictionaries by members and entries in any order.
There only members and keys whose own keys agree are compared. Mappings are read entry by entry,
and expressions, rules and reports are equal by what they are made of.
-/

namespace RecordRules

/-- Whether a test holds of some value, tried from the left. -/
def anyHolds (test : Value → Except Fault Bool) : List Value → Except Fault Bool
  | [] => .ok false
  | v :: vs => do
    if ← test v then return true else anyHolds test vs

/-- The entry of the first key that passes a test. -/
def findEntry (test : Value → Except Fault Bool) :
    List (Value × Value) → Except Fault (Option Value)
  | [] => .ok none
  | (k, v) :: rest => do
    if ← test k then return some v else findEntry test rest

/-- The entries of a mapping, each read by its key. -/
def Mapping.read (m : Mapping) : Except Fault (List (Value × Value)) :=
  match m.entries.findSome? fun e => e.1.text?.bind (m.failing.lookup ·) with
  | some f => .error f
  | none => .ok m.entries

mutual

def Value.equal : Value → Value → Except Fault Bool
  | .list xs, .list ys => if xs.length = ys.length then equalItems xs ys else .ok false
  | .tuple xs, .tuple ys => equalItems xs ys
  | .set _ xs, .set _ ys => if xs.length = ys.length then equalMembers xs ys else .ok false
  | .dict _ xs, .dict _ ys => if xs.length = ys.length then equalEntries xs ys else .ok false
  | .dict _ xs, .mapping m => do
    let ys ← m.read
    if xs.length = ys.length then equalEntries xs ys else return false
  | .mapping ⟨tag, label, xs, failing⟩, .dict _ ys => do
    let _ ← Mapping.read ⟨tag, label, xs, failing⟩
    if xs.length = ys.length then equalEntries xs ys else return false
  | .mapping ⟨tag, label, xs, failing⟩, .mapping m => do
    let _ ← Mapping.read ⟨tag, label, xs, failing⟩
    let ys ← m.read
    if xs.length = ys.length then equalEntries xs ys else return false
  | .expr e, .expr f => e.equal f
  | .rule r, .rule s => r.equal s
  | .ruleSet ⟨rs⟩, .ruleSet ⟨ss⟩ => equalRules rs ss
  | .error e, .error f => e.equal f
  | .errorSet ⟨gs⟩, .errorSet ⟨hs⟩ =>
    if gs.length = hs.length then equalGroups gs hs else .ok false
  | .result ⟨⟨gs⟩⟩, .result ⟨⟨hs⟩⟩ =>
    if gs.length = hs.length then equalGroups gs hs else .ok false
  | v, w =>
    match v.refusal?, w.refusal? with
    | some f, _ => .error f
    | Option.none, some f => .error f
    | Option.none, Option.none => v.equalPlain w
termination_by structural v => v

def equalItems : List Value → List Value → Except Fault Bool
  | [], [] => .ok true
  | v :: vs, w :: ws => do
    if ← sameOr v w v.equal then equalItems vs ws else return false
  | _, _ => .ok false
termination_by structural vs => vs

/-- Whether each of some values equals one of others. -/
def equalMembers : List Value → List Value → Except Fault Bool
  | [], _ => .ok true
  | v :: vs, ws => do
    if ← anyHolds (fun w => if v.keysAgree w then sameOr v w v.equal else .ok false) ws then
      equalMembers vs ws
    else return false
termination_by structural vs => vs

/-- Whether each of some entries has an equal one with the same key among others. -/
def equalEntries : List (Value × Value) → List (Value × Value) → Except Fault Bool
  | [], _ => .ok true
  | (k, v) :: rest, entries => do
    match ← findEntry (fun l => if k.keysAgree l then sameOr k l k.equal else .ok false)
        entries with
    | none => return false
    | some w => if ← sameOr v w v.equal then equalEntries rest entries else return false
termination_by structural es => es

/-- Equality of expressions: the same predicate by name with equal parameters, or the same
combination of equal operands. -/
def Expr.equal : Expr → Expr → Except Fault Bool
  | .bound p vs, .bound q ws => if p.key = q.key then equalItems vs ws else .ok false
  | .all es, .all fs => equalOperands es fs
  | .any es, .any fs => equalOperands es fs
  | .negation e, .negation f => e.equal f
  | _, _ => .ok false
termination_by structural e => e

def equalOperands : List Expr → List Expr → Except Fault Bool
  | [], [] => .ok true
  | e :: es, f :: fs => do
    if ← e.equal f then equalOperands es fs else return false
  | _, _ => .ok false
termination_by structural es => es

/-- Equality of rules: the same path and equal expressions. -/
def Rule.equal : Rule → Rule → Except Fault Bool
  | ⟨path, e⟩, ⟨path', f⟩ => if path.text = path'.text then e.equal f else .ok false
termination_by structural r => r

def equalRules : List Rule → List Rule → Except Fault Bool
  | [], [] => .ok true
  | r :: rs, s :: ss => do
    if ← r.equal s then equalRules rs ss else return false
  | _, _ => .ok false
termination_by structural rs => rs

/-- Equality of errors, field by field. -/
def Error.equal : Error → Error → Except Fault Bool
  | ⟨path, ruleName, expected, actual⟩, ⟨path', ruleName', expected', actual'⟩ =>
    if path.text = path'.text ∧ ruleName.text = ruleName'.text then do
      if ← sameOr expected expected' expected.equal then
        sameOr actual actual' actual.equal
      else return false
    else .ok false
termination_by structural e => e

def equalErrors : List Error → List Error → Except Fault Bool
  | [], [] => .ok true
  | e :: es, f :: fs => do
    if ← e.equal f then equalErrors es fs else return false
  | _, _ => .ok false
termination_by structural es => es

def equalGroups : List (Label × List Error) → List (Label × List Error) → Except Fault Bool
  | [], [] => .ok true
  | (path, es) :: gs, (path', fs) :: hs =>
    if path.text = path'.text then do
      if ← equalErrors es fs then equalGroups gs hs else return false
    else .ok false
  | _, _ => .ok false
termination_by structural gs => gs

end

/-- Identity or equality, as collections look for their items. -/
def Value.same (a b : Value) : Except Fault Bool :=
  sameOr a b a.equal

def RuleSet.equal (a b : RuleSet) : Except Fault Bool :=
  equalRules a.rules b.rules

def ErrorSet.equal (a b : ErrorSet) : Except Fault Bool :=
  (Value.errorSet a).equal (.errorSet b)

end RecordRules
