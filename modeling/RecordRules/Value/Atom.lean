import RecordRules.Value.Display
import RecordRules.Value.Length
import RecordRules.Value.Quantity

/-!
Equality of values that hold no other values.

Numbers of all kinds are equal by their exact value, text by its characters whether a name stands
for it or not, ranges by the numbers that they produce. Records, predicates and functions are equal
only to themselves.

A record whose comparison fails makes every comparison with it fail, unless an item of a collection
is compared with itself: `sameOr` lets identity stand for equality there.
-/

namespace RecordRules

open Number Calendar

/-- Whether two values are the same object, as far as equality could tell them apart. -/
def Value.identical : Value → Value → Bool
  | .none, .none | .absent, .absent => true
  | .float t x, .float u y => t == u && x == y
  | .decimal t x, .decimal u y => t == u && x == y
  | .complex t re im, .complex u re' im' => t == u && re == re' && im == im'
  | .record r, .record s => r.tag == s.tag
  | .mapping m, .mapping n => m.tag == n.tag
  | _, _ => false

/-- The fault of comparing with a value, if comparing with it fails. -/
def Value.refusal? : Value → Option Fault
  | .record r => r.comparison
  | _ => Option.none

def complexEqual (re im re' im' : Binary) : Bool :=
  (Quantity.ofBinary re).compare? (.ofBinary re') == some .eq &&
    (Quantity.ofBinary im).compare? (.ofBinary im') == some .eq

def complexRealEqual (re im : Binary) (q : Quantity) : Except Fault Bool :=
  if im.isZero then (Quantity.ofBinary re).equal q else .ok false

/-- Ranges are equal when they produce the same numbers: equally many, from the same start and,
if there is a second one, the same step apart. -/
def rangeEqual (start stop step start' stop' step' : Int) : Bool :=
  let n := rangeLength start stop step
  n == rangeLength start' stop' step' &&
    (n == 0 || (start == start' && (n == 1 || step == step')))

def Value.equalPlain (a b : Value) : Except Fault Bool :=
  match a, b with
  | .absent, .absent | .none, .none => .ok true
  | .text s, .text t => .ok (s.text == t.text)
  | .bytes _ xs, .bytes _ ys => .ok (xs == ys)
  | .date d, .date e => .ok (d.compare e == .eq)
  | .moment m, .moment n => .ok (m.compare? n == some .eq)
  | .time t, .time u => .ok (t.compare? u == some .eq)
  | .complex _ re im, .complex _ re' im' => .ok (complexEqual re im re' im')
  | .range a b c, .range a' b' c' => .ok (rangeEqual a b c a' b' c')
  | .type c, .type d => .ok (c == d)
  | .regex p, .regex q => .ok (p.source == q.source && p.flags == q.flags)
  | .record r, .record s => .ok (r.tag == s.tag)
  | .function f, .function g => .ok (f == g)
  | .fault f, .fault g => .ok (f.write .literal == g.write .literal)
  | .predicate (.builtin t _), .predicate (.builtin u _)
  | .predicate (.custom t _ _ _), .predicate (.custom u _ _ _) => .ok (t == u)
  | .config c, .config d | .evaluator c, .evaluator d => .ok (c == d)
  | .registry h, .registry i | .builder h, .builder i => .ok (h == i)
  | .validatorClass n _ _, .validatorClass m _ _ => .ok (n == m)
  | .validator t _ _ _ _, .validator u _ _ _ _ => .ok (t == u)
  | .complex _ re im, v | v, .complex _ re im =>
    match v.quantity? with
    | some q => complexRealEqual re im q
    | Option.none => .ok false
  | v, w =>
    match v.quantity?, w.quantity? with
    | some p, some q => p.equal q
    | _, _ => .ok false

/-- Identity, or else the answer of a comparison. -/
def sameOr (a b : Value) (equal : Value → Except Fault Bool) : Except Fault Bool :=
  if a.identical b then .ok true else equal b

end RecordRules
