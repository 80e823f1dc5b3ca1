import RecordRules.Value.Kind

/-!
The items of a value, and how many there are.

A collection produces its items one after another, a dictionary its keys, text its characters, a
range its numbers, a report its rules or errors. The length of a value need not count what it
produces: a record has a length when it defines one, and asking for it may fail. `truth` says when a
value counts as true: a number when it is not zero, anything with a length when it is not empty, a
report when it is a success, and everything else but nothing itself.
-/

namespace RecordRules

def greatestLength : Nat := Nat.pow 2 63 - 1

/-- How many numbers a range produces: those from `start` on, a step apart, before `stop`. -/
def rangeLength (start stop step : Int) : Nat :=
  if 0 < step then
    if start < stop then ((stop - start - 1) / step + 1).toNat else 0
  else if step < 0 then
    if stop < start then ((start - stop - 1) / -step + 1).toNat else 0
  else 0

/-- A range's length as a length. -/
def checkedRangeLength (start stop step : Int) : Except Fault Nat :=
  let n := rangeLength start stop step
  if n ≤ greatestLength then .ok n
  else .error (.ofMessage .overflow "Python int too large to convert to C ssize_t")

def rangeItems (start stop step : Int) : List Value :=
  (List.range (rangeLength start stop step)).map fun (i : Nat) => .int (start + step * (i : Int))

def Length.toNat : Length → Except Fault Nat
  | .given n =>
    if n < 0 then .error (.ofMessage .value "__len__() should return >= 0")
    else if (greatestLength : Int) < n then
      .error (.ofMessage .overflow "cannot fit 'int' into an index-sized integer")
    else .ok n.toNat
  | .failing f => .error f

def ErrorSet.length (es : ErrorSet) : Nat :=
  es.groups.foldr (fun g n => g.2.length + n) 0

namespace Value

def length? : Value → Option (Except Fault Nat)
  | .text label => some (.ok label.text.length)
  | .bytes _ content => some (.ok content.length)
  | .list items | .tuple items | .set _ items => some (.ok items.length)
  | .dict _ entries => some (.ok entries.length)
  | .mapping m => some (.ok m.entries.length)
  | .range start stop step => some (checkedRangeLength start stop step)
  | .record r => r.length.map Length.toNat
  | .type .predicateName => some (.ok PredicateName.all.length)
  | .ruleSet rs => some (.ok rs.rules.length)
  | .errorSet es => some (.ok es.length)
  | _ => Option.none

/-- The items that a value produces one after another, if it does. -/
def items? : Value → Option (List Value)
  | .list items | .tuple items | .set _ items => some items
  | .dict _ entries => some (entries.map (·.1))
  | .mapping m => some (m.entries.map (·.1))
  | .text label => some (label.text.toList.map fun c => .ofString (String.ofList [c]))
  | .bytes _ content => some (content.map fun b => .int b.toNat)
  | .range start stop step => some (rangeItems start stop step)
  | .ruleSet rs => some (rs.rules.map .rule)
  | .errorSet es => some (es.groups.flatMap fun g => g.2.map .error)
  | .type .predicateName => some (PredicateName.all.map fun n => .text (.name n))
  | _ => Option.none

/-- Whether a value counts as true. -/
def truth (v : Value) : Except Fault Bool :=
  match v with
  | .none | .absent => .ok false
  | .bool b => .ok b
  | .int i => .ok (i ≠ 0)
  | .float _ x => .ok !x.isZero
  | .decimal _ x => .ok !x.isZero
  | .complex _ re im => .ok !(re.isZero && im.isZero)
  | .range start stop step => .ok (rangeLength start stop step ≠ 0)
  | .type _ => .ok true
  | .result r => .ok r.errors.groups.isEmpty
  | _ =>
    match v.length? with
    | some n => n.map (· ≠ 0)
    | Option.none => .ok true

end Value

end RecordRules
