import RecordRules.Workspace.Calling
import RecordRules.Workspace.Operators

/-!
Commands of a workspace.

A command makes an object, calls one of its operations, reads or sets one of its parts or applies an
operator. It may store its answer in a variable; a command that fails leaves its variable unset. Two
more commands hand out what has been logged and noted since they were last used.
-/

namespace RecordRules

inductive Command where
  | make (what : String) (a : Arguments)
  | call (v : Value) (method : String) (a : Arguments)
  | part (v : Value) (name : String)
  | setPart (v : Value) (name : String)
  | binary (op : String) (a b : Value)
  | unary (op : String) (v : Value)
  | drainLog
  | drainNotes

def Action.drainLog : Action Value := do
  let w ← get
  set { w with log := [] }
  return .list (w.log.map fun entry =>
    let (level, message) := entry.text
    .list [.ofString level, .ofString message])

def Action.drainNotes : Action Value := do
  let w ← get
  set { w with notes := [] }
  return .list w.notes

def Command.action : Command → Action Value
  | .make what a => Action.make what a
  | .call v method a => Action.call v method a
  | .part v name => Action.part v name
  | .setPart v name => Action.setPart v name
  | .binary op a b => Action.binary op a b
  | .unary op v => Action.unary op v
  | .drainLog => Action.drainLog
  | .drainNotes => Action.drainNotes

/-- Runs a command and stores its answer. -/
def Workspace.run (w : Workspace) (c : Command) (target : Option String) :
    Except Trouble Value × Workspace :=
  let (answer, w) := (c.action.run).run w
  match answer, target with
  | .ok v, some name => (.ok v, w.assign name v)
  | .error e, some name => (.error e, w.forget name)
  | _, none => (answer, w)

end RecordRules
