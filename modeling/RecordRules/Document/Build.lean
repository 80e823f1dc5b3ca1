import RecordRules.Host
import RecordRules.Registry
import RecordRules.Rule

/-!
Rule sets from documents.

Names of predicates are resolved by a registry, and the first parameter of `type?` may name its
class by a word. A group of one operand is that operand. Whatever is wrong with a group or a word
is reported with its address in the document: the rule by its number, then the operands that lead
to it.
-/

namespace RecordRules

namespace Document

/-- The class that a value is or names. -/
def classOf (v : Value) (address : String) : Except Fault Value :=
  if v.isClass then .ok v
  else
    match v.text?.bind Class.ofAlias? with
    | some c => .ok (.type c)
    | none => .error (.definition (.unknownClass v address))

/-- The parameters of a predicate in a document: for `type?` the first one becomes a class. -/
def resolveParams (name address : String) (params : List Value) : Except Fault (List Value) :=
  match params with
  | first :: rest =>
    if name = Builtin.type.text then do
      let target ← classOf first (address ++ ".params.0")
      return target :: rest
    else .ok params
  | [] => .ok []

def combine (op : Connective) (address : String) (operands : List Expr) : Except Fault Expr :=
  match op, operands with
  | _, [] => .error (.definition (.emptyGroup op address))
  | .not, [e] => .ok (.negation e)
  | .not, _ => .error (.definition (.crowdedNegation address))
  | _, [e] => .ok e
  | .and, es => .ok (.all es)
  | .or, es => .ok (.any es)

mutual

def build (checks : Checks) (reg : Registry) (address : String) : Node → Except Fault Expr
  | .named name params => do
    let params ← resolveParams name address params
    Expr.bindBy checks (← reg.resolve name) params
  | .group op operands => do
    combine op address (← buildAll checks reg address 0 operands)

/-- The expressions of operands, the first of which has the index `i`. -/
def buildAll (checks : Checks) (reg : Registry) (address : String) (i : Nat) :
    List Node → Except Fault (List Expr)
  | [] => .ok []
  | n :: ns => do
    let e ← build checks reg (address ++ ".operands." ++ Number.showNat i) n
    let es ← buildAll checks reg address (i + 1) ns
    return e :: es

end

def buildRule (checks : Checks) (reg : Registry) (i : Nat) (r : RuleNode) : Except Fault Rule := do
  let e ← build checks reg ("rules." ++ Number.showNat i) r.node
  Rule.make (.ofString r.path) (.expr e)

def buildRules (checks : Checks) (reg : Registry) (i : Nat) :
    List RuleNode → Except Fault (List Rule)
  | [] => .ok []
  | r :: rs => do
    let rule ← buildRule checks reg i r
    let rules ← buildRules checks reg (i + 1) rs
    return rule :: rules

def Problem.toFault (p : Problem) : Fault :=
  let address := ".".intercalate p.location
  .definition (.document p.message (if address.isEmpty then "<root>" else address))

end Document

namespace RuleSet

/-- The rule set of a document, when parameters are checked in the given way. -/
def ofDocumentBy (checks : Checks) (reg : Registry) (document : Value) : Except Fault RuleSet := do
  let nodes ← (Document.rulesOf document).mapError Document.Problem.toFault
  return ⟨← Document.buildRules checks reg 0 nodes⟩

def ofDocumentOn (host : Host) (reg : Registry) (document : Value) : Except Fault RuleSet := do
  let nodes ← (host.nodes document).mapError (Refusal.toFault Document.Problem.toFault)
  return ⟨← (Document.buildRules host.checks reg 0 nodes).mapError host.raise⟩

def ofJsonOn (host : Host) (reg : Registry) (source : Value) : Except Fault RuleSet := do
  match ← (host.load source).mapError (Refusal.toFault fun reason =>
    .definition (.json reason)) with
  | .dict readOnly entries => ofDocumentOn host reg (.dict readOnly entries)
  | _ => throw (.definition .notObject)

def ofDocument (reg : Registry) (document : Value) : Except Fault RuleSet :=
  ofDocumentOn .standard reg document

def ofJson (reg : Registry) (source : Value) : Except Fault RuleSet :=
  ofJsonOn .standard reg source

end RuleSet

end RecordRules
