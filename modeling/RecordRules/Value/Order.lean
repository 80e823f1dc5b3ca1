import RecordRules.Value.Equality

/-!
The order of values.

Numbers of all kinds are ordered by their exact value, text by its characters, dates and times by
when they are, lists and tuples by the first place where they differ. Sets are ordered by inclusion,
so that two sets may be related in no direction. Values of different families have no order, and
asking for it is a fault.
-/

namespace RecordRules

open Number Calendar

/-- The four questions about the order of two values. -/
inductive Relation where
  | lt | le | gt | ge
deriving DecidableEq, Repr, Inhabited

namespace Relation

def sign : Relation → String
  | .lt => "<"
  | .le => "<="
  | .gt => ">"
  | .ge => ">="

/-- The same relation read from the right. -/
def flip : Relation → Relation
  | .lt => .gt
  | .le => .ge
  | .gt => .lt
  | .ge => .le

def holds : Relation → Ordering → Bool
  | .lt, o => o == .lt
  | .le, o => o != .gt
  | .gt, o => o == .gt
  | .ge, o => o != .lt

end Relation

/-- The fault of ordering values that have no order. -/
def Fault.noOrder (r : Relation) (left right : String) : Fault :=
  .ofMessage .type
    ("'" ++ r.sign ++ "' not supported between instances of '" ++ left ++ "' and '" ++ right ++ "'")

/-- The order of two lists by the first place where they differ. -/
def lexicographic {α : Type} (compare : α → α → Ordering) : List α → List α → Ordering
  | [], [] => .eq
  | [], _ :: _ => .lt
  | _ :: _, [] => .gt
  | x :: xs, y :: ys => (compare x y).then (lexicographic compare xs ys)

def compareText (s t : String) : Ordering :=
  lexicographic (fun c d => Ord.compare c.toNat d.toNat) s.toList t.toList

/-- The fault of ordering two values without an order. The view of a dictionary answers as the
dictionary itself, from the right as well. -/
def Value.noOrder (r : Relation) (a b : Value) : Fault :=
  let name (v : Value) : String :=
    match v with
    | .dict _ _ => "dict"
    | _ => v.operandName
  match b with
  | .dict true _ => .noOrder r.flip "dict" (name a)
  | _ => .noOrder r (name a) b.operandName

/-- Whether one collection of members holds another, with the sizes that a relation asks for. -/
def orderedMembers (r : Relation) (vs ws : List Value) : Except Fault Bool :=
  match r with
  | .lt => if vs.length < ws.length then equalMembers vs ws else .ok false
  | .le => if vs.length ≤ ws.length then equalMembers vs ws else .ok false
  | .gt => if ws.length < vs.length then equalMembers ws vs else .ok false
  | .ge => if ws.length ≤ vs.length then equalMembers ws vs else .ok false

/-- The order of values that hold no other values. -/
def Value.orderedPlain (r : Relation) (a b : Value) : Except Fault Bool :=
  match a, b with
  | .text s, .text t => .ok (r.holds (compareText s.text t.text))
  | .bytes _ xs, .bytes _ ys =>
    .ok (r.holds (lexicographic (fun x y => Ord.compare x.toNat y.toNat) xs ys))
  | .date d, .date e => .ok (r.holds (d.compare e))
  | .moment m, .moment n =>
    match m.compare? n with
    | some o => .ok (r.holds o)
    | Option.none =>
      .error (.ofMessage .type "can't compare offset-naive and offset-aware datetimes")
  | .moment _, .date _ | .date _, .moment _ =>
    .error (.ofMessage .type "can't compare datetime.datetime to datetime.date")
  | .time t, .time u =>
    match t.compare? u with
    | some o => .ok (r.holds o)
    | Option.none => .error (.ofMessage .type "can't compare offset-naive and offset-aware times")
  | .set _ vs, .set _ ws => orderedMembers r vs ws
  | v, w =>
    match v.quantity?, w.quantity? with
    | some p, some q =>
      if (v.isDecimal || w.isDecimal) && (p.isNan || q.isNan) then .error .refusedComparison
      else
        match p.compare? q with
        | some o => .ok (r.holds o)
        | Option.none => .ok false
    | _, _ => .error (v.noOrder r w)

mutual

/-- Whether a value stands in a relation to another one. -/
def Value.ordered (r : Relation) : Value → Value → Except Fault Bool
  | .list vs, .list ws => orderedItems r vs ws
  | .tuple vs, .tuple ws => orderedItems r vs ws
  | v, w =>
    match v.refusal?, w.refusal? with
    | some f, _ => .error f
    | Option.none, some f => .error f
    | Option.none, Option.none => v.orderedPlain r w
termination_by structural v => v

def orderedItems (r : Relation) : List Value → List Value → Except Fault Bool
  | v :: vs, w :: ws => do
    if ← v.same w then orderedItems r vs ws else v.ordered r w
  | vs, ws => .ok (r.holds (Ord.compare vs.length ws.length))
termination_by structural vs => vs

end

end RecordRules
