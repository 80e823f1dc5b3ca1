import RecordRules.Builder
import RecordRules.Config.Settings
import RecordRules.Evaluation
import RecordRules.Host
import RecordRules.Value.Length

/-!
Workspaces.

A workspace holds named bindings, and commands run over them one after another. Most objects are
values that never change. Registries and builders do change, so a variable holds a handle to one,
and the workspace keeps what the handle stands for: two bindings with one handle see the same
registry. What evaluations log and what spying predicates note is kept until a command asks for it.
-/

namespace RecordRules

/-- A builder whose registry may change by itself. -/
structure BuilderCell where
  registry : Nat
  rules : List Rule

/-- The state between two commands. -/
structure Workspace where
  bindings : List (String × Value)
  registries : List Registry
  builders : List BuilderCell
  nextTag : Nat
  log : List LogEntry
  notes : List Value

inductive Trouble where
  | fault (f : Fault)
  | settings (problems : List Settings.Problem)

/-- A command at work on a workspace. -/
abbrev Action := ExceptT Trouble (StateM Workspace)

namespace Workspace

/-- Nothing at all; tags start from one, and zero is left for numbers without an identity. -/
def empty : Workspace := ⟨[], [], [], 1, [], []⟩

def assign (w : Workspace) (name : String) (v : Value) : Workspace :=
  { w with bindings := (name, v) :: w.bindings.filter (·.1 != name) }

def forget (w : Workspace) (name : String) : Workspace :=
  { w with bindings := w.bindings.filter (·.1 != name) }

def registryAt (w : Workspace) (handle : Nat) : Registry :=
  (w.registries[handle]?).getD .empty

/-- The builder behind a handle, with the present state of its registry. -/
def builderAt (w : Workspace) (handle : Nat) : Builder :=
  match w.builders[handle]? with
  | some cell => ⟨w.registryAt cell.registry, cell.rules⟩
  | none => ⟨.empty, []⟩

/-- The note that a call leaves, if its function takes notes. -/
def noteOf : Event → Option Value
  | .called (.custom _ _ (.spy _) _) v params => some (.list (v :: params))
  | _ => none

end Workspace

namespace Action

def fault {α : Type} (f : Fault) : Action α := throw (.fault f)

/-- The outcome of a computation that may fault. -/
def ofExcept {α : Type} : Except Fault α → Action α
  | .ok a => return a
  | .error f => fault f

/-- The outcome of making a part of a rule set; the message of its fault is written. -/
def made {α : Type} (x : Except Fault α) : Action α := ofExcept (x.mapError Host.standard.raise)

/-- The outcome of a run, whose events are kept. -/
def ofRun {α : Type} (x : Run α) : Action α := do
  modify fun w =>
    { w with
      log := w.log ++ Run.logOf x.events
      notes := w.notes ++ x.events.filterMap Workspace.noteOf }
  ofExcept x.answer

def newTags (count : Nat) : Action Nat := do
  let w ← get
  set { w with nextTag := w.nextTag + count }
  return w.nextTag

def newRegistry (reg : Registry) : Action Nat := do
  let w ← get
  set { w with registries := w.registries ++ [reg] }
  return w.registries.length

def newStandardRegistry : Action Nat := do
  newRegistry (.standard (← newTags Builtin.all.length))

def setRegistry (handle : Nat) (reg : Registry) : Action Unit :=
  modify fun w => { w with registries := w.registries.set handle reg }

def newBuilder (cell : BuilderCell) : Action Nat := do
  let w ← get
  set { w with builders := w.builders ++ [cell] }
  return w.builders.length

def setRules (handle : Nat) (b : Builder) : Action Unit :=
  modify fun w =>
    { w with builders := w.builders.modify handle fun cell => { cell with rules := b.rules } }

/-- Fails because a value has no part of a name. -/
def noPart {α : Type} (v : Value) (name : String) : Action α :=
  let kind :=
    match v with
    | .validatorClass className _ _ => "type object '" ++ className ++ "'"
    | _ => "'" ++ v.className ++ "' object"
  fault (.ofMessage .noAttribute (kind ++ " has no attribute '" ++ name ++ "'"))

def unsupported {α : Type} (message : String) : Action α :=
  fault (.ofMessage .type message)

end Action

/-- The items of a value, or the fault that it has none. -/
def Action.itemsOf (v : Value) : Action (List Value) :=
  match v.items? with
  | some items => return items
  | none => unsupported ("'" ++ v.operandName ++ "' object is not iterable")

end RecordRules
