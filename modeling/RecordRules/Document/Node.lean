import RecordRules.Text.Encoding
import RecordRules.Value.Membership

/-!
Rule documents as trees.

A document is a dictionary with a list of rules. A rule is a node with an attribute; a node either
names a predicate and gives its parameters or combines other nodes. What a dictionary may hold is
fixed, and the first thing that is wrong is reported with its place: the fields of a node are looked
at in a fixed order, then its unknown keys, and last whether the fields go together.
-/

namespace RecordRules

/-- A node: a predicate by name with its parameters, or a combination of nodes. -/
inductive Node where
  | named (predicate : String) (params : List Value)
  | group (op : Connective) (operands : List Node)

/-- A rule: a node and the path that it is about. -/
structure RuleNode where
  path : String
  node : Node

namespace Document

structure Problem where
  message : String
  location : List String

/-- The kinds of dictionary in a document. -/
inductive Role where
  | document | rule | operand
deriving DecidableEq, Repr

/-- How a message names a kind of dictionary. -/
def Role.title : Role → String
  | .document => "RuleSetDocument"
  | .rule => "RuleNode"
  | .operand => "PredicateNode"

/-- The keys that a dictionary may hold. -/
def Role.keys : Role → List String
  | .document => ["rules"]
  | .rule => ["predicate", "params", "op", "operands", "attribute"]
  | .operand => ["predicate", "params", "op", "operands"]

def Role.notDictionary (role : Role) (location : List String) : Problem :=
  ⟨"Input should be a valid dictionary or instance of " ++ role.title, location⟩

/-- The problem of a mapping that fails when it is read. -/
def failingMapping (f : Fault) (location : List String) : Problem :=
  let message := f.message
  ⟨"Input should be a valid mapping, error: " ++ f.className ++
    (if message.isEmpty then "" else ": " ++ message), location⟩

def entriesOfMapping (location : List String) (entries : List (Value × Value))
    (failing : List (String × Fault)) : Except Problem (List (Value × Value)) :=
  match entries.findSome? fun e => e.1.text?.bind (failing.lookup ·) with
  | some f => .error (failingMapping f location)
  | none => .ok entries

def entriesOf (role : Role) (location : List String) : Value →
    Except Problem (List (Value × Value))
  | .dict _ entries => .ok entries
  | .mapping m => entriesOfMapping location m.entries m.failing
  | _ => .error (role.notDictionary location)

def field? (key : String) (entries : List (Value × Value)) : Option Value :=
  (entries.find? fun e => e.1.text? == some key).map (·.2)

/-- The text that a value is, also when it is given as bytes. -/
def textOf (v : Value) (location : List String) : Except Problem String :=
  match v with
  | .text label => .ok label.text
  | .bytes _ content =>
    match Text.decodeUtf8 content with
    | .ok s => .ok s
    | .error _ =>
      .error ⟨"Input should be a valid string, unable to parse raw data as a unicode string",
        location⟩
  | _ => .error ⟨"Input should be a valid string", location⟩

/-- Whether a value can stand for a list: it produces items, and is neither text nor a mapping. -/
def isListLike : Value → Bool
  | .text _ | .bytes _ _ | .dict _ _ | .mapping _ => false
  | v => v.items?.isSome

def itemsOf (v : Value) (location : List String) : Except Problem (List Value) :=
  if isListLike v then .ok (v.items?.getD [])
  else .error ⟨"Input should be a valid list", location⟩

def predicateOf (entries : List (Value × Value)) (location : List String) :
    Except Problem (Option String) :=
  match field? "predicate" entries with
  | none | some .none => .ok none
  | some v => (textOf v (location ++ ["predicate"])).map some

def paramsOf (entries : List (Value × Value)) (location : List String) :
    Except Problem (List Value) :=
  match field? "params" entries with
  | none => .ok []
  | some v => itemsOf v (location ++ ["params"])

def connectiveOf (entries : List (Value × Value)) (location : List String) :
    Except Problem (Option Connective) :=
  match field? "op" entries with
  | none | some .none => .ok none
  | some v =>
    match v.text?.bind Connective.ofText? with
    | some c => .ok (some c)
    | none => .error ⟨"Input should be 'and', 'or' or 'not'", location ++ ["op"]⟩

def attributeOf (entries : List (Value × Value)) (location : List String) :
    Except Problem String :=
  match field? "attribute" entries with
  | none => .error ⟨"Field required", location ++ ["attribute"]⟩
  | some v => textOf v (location ++ ["attribute"])

/-- The path that a node has: a rule its attribute, an operand none. -/
def Role.pathOf (role : Role) (entries : List (Value × Value)) (location : List String) :
    Except Problem String :=
  if role = .rule then attributeOf entries location else .ok ""

/-- How a key is named in a location: text and numbers as they read, anything else as it is. -/
def keyName (key : Value) : String :=
  match key.text?, key.integer? with
  | some s, _ => s
  | none, some i => Number.showInt i
  | none, none => key.literal

/-- The text of a key, also when it is given as bytes. -/
def keyText? (key : Value) : Option String :=
  match textOf key [] with
  | .ok s => some s
  | .error _ => none

/-- Refuses keys that are no text, and keys beside the known ones that have an entry. -/
def checkKeys (known : List String) (location : List String) :
    List (Value × Value) → Except Problem Unit
  | [] => .ok ()
  | (key, _) :: rest =>
    match keyText? key with
    | none => .error ⟨"Keys should be strings", location ++ [keyName key]⟩
    | some k =>
      if known.contains k then checkKeys known location rest
      else .error ⟨"Extra inputs are not permitted", location ++ [keyName key]⟩

/-- Refuses keys of a dictionary that its role does not know. -/
def Role.checkKeys (role : Role) (location : List String) (entries : List (Value × Value)) :
    Except Problem Unit :=
  Document.checkKeys (role.keys.filter fun k => (field? k entries).isSome) location entries

/-- The node of fields that go together: a predicate or a connective but not both, parameters only
with a predicate and operands only with a connective. -/
def nodeOf (location : List String) (predicate : Option String) (params : List Value)
    (op : Option Connective) (operands : List Node) : Except Problem Node :=
  match predicate, op with
  | some name, none =>
    if operands.isEmpty then .ok (.named name params)
    else .error ⟨"Value error, 'operands' is only valid with 'op'", location⟩
  | none, some c =>
    if params.isEmpty then .ok (.group c operands)
    else .error ⟨"Value error, 'params' is only valid with 'predicate'", location⟩
  | _, _ => .error ⟨"Value error, exactly one of 'predicate' or 'op' is required", location⟩

/-- The location of an item in a field. -/
def itemLocation (location : List String) (i : Nat) : List String :=
  location ++ [Number.showNat i]

/-- The operands among items that are no nodes: the first one is refused. -/
def refuseItems (location : List String) (v : Value) : Except Problem (List Node) := do
  if (← itemsOf v location).isEmpty then return []
  else throw (Role.operand.notDictionary (itemLocation location 0))

/-- The node that the entries of a dictionary make, with the path that a rule has beside it. What
is wrong with its operands comes after what is wrong with the fields before them. -/
def assemble (role : Role) (location : List String) (entries : List (Value × Value))
    (operands : Except Problem (List Node)) : Except Problem RuleNode := do
  let predicate ← predicateOf entries location
  let params ← paramsOf entries location
  let op ← connectiveOf entries location
  let operands ← operands
  let path ← role.pathOf entries location
  role.checkKeys location entries
  let node ← nodeOf location predicate params op operands
  return ⟨path, node⟩

mutual

def operandOf (location : List String) : Value → Except Problem Node
  | .dict _ entries =>
    let operands := operandsField (location ++ ["operands"]) entries
    (assemble .operand location entries operands).map RuleNode.node
  | .mapping ⟨_, _, entries, failing⟩ => do
    let _ ← entriesOfMapping location entries failing
    let operands := operandsField (location ++ ["operands"]) entries
    (assemble .operand location entries operands).map RuleNode.node
  | _ => .error (Role.operand.notDictionary location)
termination_by structural v => v

def operandsField (location : List String) : List (Value × Value) → Except Problem (List Node)
  | [] => .ok []
  | (key, v) :: rest =>
    if key.text? = some "operands" then operandList location v
    else operandsField location rest
termination_by structural es => es

def operandList (location : List String) : Value → Except Problem (List Node)
  | .list items => operandItems location 0 items
  | .tuple items => operandItems location 0 items
  | .set _ items => operandItems location 0 items
  | v => refuseItems location v
termination_by structural v => v

/-- The operands that some items are, the first of which has the index `i`. -/
def operandItems (location : List String) (i : Nat) : List Value → Except Problem (List Node)
  | [] => .ok []
  | v :: vs => do
    let n ← operandOf (itemLocation location i) v
    let ns ← operandItems location (i + 1) vs
    return n :: ns
termination_by structural vs => vs

end

def ruleOf (location : List String) (v : Value) : Except Problem RuleNode := do
  let entries ← entriesOf .rule location v
  assemble .rule location entries (operandsField (location ++ ["operands"]) entries)

def ruleItems (i : Nat) : List Value → Except Problem (List RuleNode)
  | [] => .ok []
  | v :: vs => do
    let r ← ruleOf (itemLocation ["rules"] i) v
    let rs ← ruleItems (i + 1) vs
    return r :: rs

def rulesOf (document : Value) : Except Problem (List RuleNode) := do
  let entries ← entriesOf .document [] document
  let rules ←
    match field? "rules" entries with
    | none => pure []
    | some v => ruleItems 0 (← itemsOf v ["rules"])
  Role.document.checkKeys [] entries
  return rules

end Document

end RecordRules
