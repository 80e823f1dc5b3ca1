import RecordRules.Value.Key
import RecordRules.Value.Length

/-!
Membership.

A list or a tuple holds what is identical or equal to one of its items, tried from the left. A set
or a dictionary finds a value by its key, so a value without a key is a fault; only a set is looked
up in sets as if it were frozen. A range holds the numbers that it produces, bytes hold numbers
below 256 and runs of bytes, text holds runs of characters.
-/

namespace RecordRules

/-- Whether a range produces an integer: it lies between the bounds and a whole number of steps
from the start. -/
def rangeHolds (start stop step i : Int) : Bool :=
  if 0 < step then decide (start ≤ i) && decide (i < stop) && (i - start) % step == 0
  else if step < 0 then decide (i ≤ start) && decide (stop < i) && (start - i) % -step == 0
  else false

/-- Whether a range produces a number equal to a value. -/
def rangeContains (start stop step : Int) (v : Value) : Except Fault Bool :=
  if rangeLength start stop step = 0 then .ok false
  else
    match v.refusal?, v.quantity? with
    | some f, _ => .error f
    | none, some q =>
      if q.isSignaling then .error .refusedComparison
      else .ok ((q.toInt?.map (rangeHolds start stop step)).getD false)
    | none, none =>
      match v with
      | .complex _ re im =>
        .ok (im.isZero && (((Quantity.ofBinary re).toInt?.map (rangeHolds start stop step)).getD
          false))
      | _ => .ok false

/-- Whether one list stands somewhere within another, without gaps. -/
def Text.occursIn {α : Type} [BEq α] (part : List α) : List α → Bool
  | [] => part.isEmpty
  | x :: xs => part.isPrefixOf (x :: xs) || occursIn part xs

def bytesContain (content : List UInt8) (v : Value) : Except Fault Bool :=
  match v.integer?, v with
  | some i, _ =>
    if 0 ≤ i ∧ i < 256 then .ok (content.contains (UInt8.ofNat i.toNat))
    else .error (.ofMessage .value "byte must be in range(0, 256)")
  | none, .bytes _ part => .ok (Text.occursIn part content)
  | none, _ =>
    .error (.ofMessage .type ("a bytes-like object is required, not '" ++ v.operandName ++ "'"))

def entriesHold (entries : List (Value × Value)) (key : Value) : Except Fault Bool := do
  let _ ← key.hashKey
  return (lookupKey key entries).isSome

/-- A value as sets look for it. -/
def Value.asMember : Value → Value
  | .set _ items => .set true items
  | v => v

/-- The entry of a mapping under a key: the key's own fault, the fault of a missing key, or the
value. -/
def Mapping.get (m : Mapping) (key : Value) : Except Fault Value := do
  let _ ← key.hashKey
  match key.text?.bind (m.failing.lookup ·) with
  | some f => throw f
  | none =>
    match lookupKey key m.entries with
    | some v => return v
    | none => throw (.plain .key [key])

/-- The entry of a mapping under a key, or nothing where there is no such key. -/
def Mapping.get? (m : Mapping) (key : Value) : Except Fault (Option Value) :=
  match m.get key with
  | .ok v => .ok (some v)
  | .error f => if f.isKind .key then .ok none else .error f

def ErrorSet.forAttribute (es : ErrorSet) (path : String) : List Error :=
  ((es.groups.find? fun g => g.1.text == path).map (·.2)).getD []

namespace Value

def isContainer : Value → Bool
  | .text _ | .bytes _ _ | .list _ | .tuple _ | .set _ _ | .dict _ _ | .mapping _ | .range _ _ _
  | .errorSet _ | .type .predicateName => true
  | _ => false

def contains (container v : Value) : Except Fault Bool :=
  match container with
  | .list items | .tuple items => anyHolds (fun item => item.same v) items
  | .set _ items => do
    let _ ← v.asMember.hashKey
    return items.any fun item => v.asMember.sameKey item.asMember
  | .dict _ entries => entriesHold entries v
  | .mapping m => do return (← m.get? v).isSome
  | .range start stop step => rangeContains start stop step v
  | .bytes _ content => bytesContain content v
  | .text label =>
    match v with
    | .text part => .ok (Text.occursIn part.text.toList label.text.toList)
    | _ =>
      .error (.ofMessage .type
        ("'in <string>' requires string as left operand, not " ++ v.operandName))
  | .errorSet es => do
    let _ ← v.hashKey
    return es.groups.any fun g => v.sameKey (.text g.1)
  | .ruleSet rs => anyHolds (fun rule => rule.same v) (rs.rules.map .rule)
  | .type .predicateName =>
    match v with
    | .text (.name _) => .ok true
    | _ =>
      .error (.ofMessage .type ("unsupported operand type(s) for 'in': '" ++ v.className ++
        "' and 'EnumType'"))
  | c => .error (.ofMessage .type ("argument of type '" ++ c.operandName ++ "' is not iterable"))

end Value

end RecordRules
