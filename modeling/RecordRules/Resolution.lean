import RecordRules.Path
import RecordRules.Value.Membership

/-!
Reading a path from a record.

A mapping is read by key and a record by attribute. What is not there is `absent`, and so is
everything below it; numbers, text and collections have nothing below them. A record may compute an
attribute, and a fault in the computation is the fault of reading it: it is never taken for a
missing attribute. Only when a record has no such attribute at all is its hook asked, and only the
hook may say that there is nothing.
-/

namespace RecordRules

open Calendar

/-- The answer of a hook: a fault, a value, or the fault that there is no such attribute. -/
def Hook.answer (h : Hook) (key : String) : Except Fault Value :=
  match h.failing.lookup key, h.values.lookup key with
  | some f, _ => .error f
  | none, some v => .ok v
  | none, none => .error (.ofMessage .noAttribute key)

/-- The value of an attribute, where a fault that there is no such attribute counts as absent. -/
def absentOnMissing (answer : Except Fault Value) : Except Fault Value :=
  match answer with
  | .error f => if f.isKind .noAttribute then .ok .absent else .error f
  | .ok v => .ok v

/-- The answer of a record's hook for an attribute that is found nowhere else. -/
def Record.dynamic (r : Record) (key : String) : Except Fault Value :=
  match r.hook with
  | some h => absentOnMissing (h.answer key)
  | none => .ok .absent

/-- An attribute of a record: a computed one, then a declared one, then one of the record alone,
then whatever the hook says. Where a computation says that there is no such attribute, the hook
speaks for it. -/
def Record.read (r : Record) (key : String) : Except Fault Value :=
  match r.failing.lookup key with
  | some f =>
    match r.hook with
    | some h => if f.isKind .noAttribute then h.answer key else .error f
    | none => .error f
  | none =>
    match r.properties.lookup key, r.slots.lookup key, r.attributes.lookup key with
    | some v, _, _ => .ok v
    | none, some (some v), _ => .ok v
    | none, some none, _ => r.dynamic key
    | none, none, some v => .ok v
    | none, none, none => r.dynamic key

/-- The first and last day of the calendar. -/
def firstDay : Date := ⟨1, 1, 1⟩

def lastDay : Date := ⟨9999, 12, 31⟩

def lastTime : Time := ⟨23, 59, 59, 999999, none⟩

def Calendar.Date.field? (d : Date) (key : String) : Option Value :=
  match key with
  | "year" => some (.int d.year)
  | "month" => some (.int d.month)
  | "day" => some (.int d.day)
  | "min" => some (.date firstDay)
  | "max" => some (.date lastDay)
  | _ => none

/-- A part of a time. An offset is shown as text, and nothing stands below it. -/
def Calendar.Time.field? (t : Time) (key : String) : Option Value :=
  match key with
  | "hour" => some (.int t.hour)
  | "minute" => some (.int t.minute)
  | "second" => some (.int t.second)
  | "microsecond" => some (.int t.microsecond)
  | "fold" => some (.int 0)
  | "tzinfo" => some ((t.offset.map fun o => Value.ofString o.text).getD .none)
  | "min" => some (.time ⟨0, 0, 0, 0, none⟩)
  | "max" => some (.time lastTime)
  | _ => none

/-- A part of a moment: of its date, or of its time. -/
def Calendar.Moment.field? (m : Moment) (key : String) : Option Value :=
  match key with
  | "min" => some (.moment ⟨firstDay, ⟨0, 0, 0, 0, none⟩⟩)
  | "max" => some (.moment ⟨lastDay, lastTime⟩)
  | _ => (m.date.field? key).or (m.time.field? key)

def Pattern.Compiled.field? (p : Pattern.Compiled) (key : String) : Option Value :=
  match key with
  | "pattern" => some (.ofString p.source)
  | "groups" => some (.int p.groups)
  | "flags" => some (.int p.flags.number)
  | _ => none

def Value.field? (v : Value) (key : String) : Option Value :=
  match v with
  | .date d => d.field? key
  | .moment m => m.field? key
  | .time t => t.field? key
  | .regex p => p.field? key
  | .range start stop step =>
    match key with
    | "start" => some (.int start)
    | "stop" => some (.int stop)
    | "step" => some (.int step)
    | _ => Option.none
  | .complex tag re im =>
    match key with
    | "real" => some (.float tag re)
    | "imag" => some (.float tag im)
    | _ => Option.none
  | _ => Option.none

/-- One step of a path. -/
def Value.lookup (v : Value) (key : String) : Except Fault Value :=
  match v with
  | .dict _ entries => .ok ((lookupKey (.ofString key) entries).getD .absent)
  | .mapping m => do return (← m.get? (.ofString key)).getD .absent
  | .record r => r.read key
  | _ => .ok ((v.field? key).getD .absent)

def Value.isAbsent : Value → Bool
  | .absent => true
  | _ => false

/-- The steps of a path, up to the first that leads nowhere. -/
def Value.walk (v : Value) : List String → Except Fault Value
  | [] => .ok v
  | key :: keys => do
    let next ← v.lookup key
    if next.isAbsent then return next else next.walk keys

def Config.resolve (c : Config) (record : Value) (path : Label) : Except Fault Value :=
  record.walk (c.segments path)

end RecordRules
