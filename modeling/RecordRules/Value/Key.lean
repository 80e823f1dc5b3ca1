import RecordRules.Value.Equality

/-!
Finding values by their keys.

A collection takes two values for the same when their keys agree and they are identical or equal.
A repeated key of a dictionary keeps its first place and gets the last value.
-/

namespace RecordRules

/-- Whether a collection takes two values for the same. -/
def Value.sameKey (a b : Value) : Bool :=
  match a.hashKey, b.hashKey, a.same b with
  | .ok k, .ok l, .ok true => k.agrees l
  | _, _, _ => false

/-- The value of the first entry with a key. -/
def lookupKey (key : Value) : List (Value × Value) → Option Value
  | [] => none
  | (k, v) :: rest => if key.sameKey k then some v else lookupKey key rest

/-- The entries of a dictionary: a repeated key keeps its first place and gets the last value. -/
def insertEntry (key value : Value) : List (Value × Value) → List (Value × Value)
  | [] => [(key, value)]
  | (k, v) :: rest =>
    if key.sameKey k then (k, value) :: rest else (k, v) :: insertEntry key value rest

/-- Whether a value meets another one where its key leads to. -/
def Value.meets (a b : Value) : Except Fault Bool :=
  if a.keysAgree b then a.same b else .ok false

/-- Looks for a key among others before it sets the entry. A comparison may fail there. -/
def setEntry (entries : List (Value × Value)) (entry : Value × Value) :
    Except Fault (List (Value × Value)) := do
  let _ ← entry.1.hashKey
  let _ ← anyHolds entry.1.meets (entries.map Prod.fst)
  return insertEntry entry.1 entry.2 entries

def entriesOf (pairs : List (Value × Value)) : Except Fault (List (Value × Value)) :=
  pairs.foldlM setEntry []

/-- Puts a value into a set, unless it meets a member. -/
def insertMember (members : List Value) (v : Value) : Except Fault (List Value) := do
  let _ ← v.hashKey
  if ← anyHolds v.meets members then return members else return members ++ [v]

def membersOf (items : List Value) : Except Fault (List Value) :=
  items.foldlM insertMember []

end RecordRules
