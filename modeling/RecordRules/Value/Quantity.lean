import RecordRules.Value.Kind

/-!
Real numbers of any kind, compared exactly.

Integers, truth values, binary fractions and decimal numbers are all read as exact fractions before
they are compared, so no comparison rounds. Not-a-number equals nothing. A signaling one cannot be
compared at all, and a quiet one cannot be ordered against a decimal number.
-/

namespace RecordRules

open Number

/-- A real number, an infinity or not a number. -/
inductive Quantity where
  | finite (s : Scaled)
  | infinite (negative : Bool)
  | nan (signaling : Bool)
deriving DecidableEq, Repr, Inhabited

namespace Quantity

def ofBinary : Binary → Quantity
  | .finite negative m e => .finite (Scaled.ofBinary (if negative then -(m : Int) else m) e)
  | .infinite negative => .infinite negative
  | .nan => .nan false

def ofDecimal : Decimal → Quantity
  | .finite negative c e => .finite ⟨if negative then -(c : Int) else c, e⟩
  | .infinite negative => .infinite negative
  | .nan signaling _ _ => .nan signaling

/-- The order of two quantities; not-a-number has none. -/
def compare? : Quantity → Quantity → Option Ordering
  | .finite a, .finite b => some (a.compare b)
  | .nan _, _ | _, .nan _ => none
  | .infinite a, .infinite b => some (if a = b then .eq else if a then .lt else .gt)
  | .infinite negative, .finite _ => some (if negative then .lt else .gt)
  | .finite _, .infinite negative => some (if negative then .gt else .lt)

def isNan : Quantity → Bool
  | .nan _ => true
  | _ => false

/-- The not-a-number that cannot be compared. -/
def isSignaling : Quantity → Bool
  | .nan signaling => signaling
  | _ => false

def toInt? : Quantity → Option Int
  | .finite s => s.toInt?
  | _ => none

end Quantity

/-- The fault of a comparison that decimal numbers refuse. -/
def Fault.refusedComparison : Fault :=
  .ofMessage .invalidOperation "[<class 'decimal.InvalidOperation'>]"

/-- Whether two quantities are equal; a signaling not-a-number refuses the question. -/
def Quantity.equal (a b : Quantity) : Except Fault Bool :=
  if a.isSignaling || b.isSignaling then .error .refusedComparison
  else .ok (a.compare? b == some .eq)

namespace Value

def quantity? : Value → Option Quantity
  | .bool b => some (.finite (Scaled.ofInt (if b then 1 else 0)))
  | .int i => some (.finite (Scaled.ofInt i))
  | .float _ x => some (.ofBinary x)
  | .decimal _ x => some (.ofDecimal x)
  | _ => Option.none

/-- The integer that a value is, counting truth values. -/
def integer? : Value → Option Int
  | .bool b => some (if b then 1 else 0)
  | .int i => some i
  | _ => Option.none

def isDecimal : Value → Bool
  | .decimal _ _ => true
  | _ => false

end Value

end RecordRules
