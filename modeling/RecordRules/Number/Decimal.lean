import RecordRules.Number.Binary

/-!
Decimal numbers that keep the digits they were written with.

A finite number is a sign, a coefficient and a power of ten, so `1.0` and `1.00` are equal but
written differently. There are two infinities and two kinds of not-a-number: a quiet one, which
no comparison finds equal to anything, and a signaling one, which every comparison refuses.
-/

namespace RecordRules.Number

inductive Decimal where
  | finite (negative : Bool) (coefficient : Nat) (exponent : Int)
  | infinite (negative : Bool)
  | nan (signaling negative : Bool) (payload : Nat)
deriving DecidableEq, Repr, Inhabited

namespace Decimal

def isFinite : Decimal → Bool
  | .finite .. => true
  | _ => false

def isNan : Decimal → Bool
  | .nan .. => true
  | _ => false

/-- The not-a-number that no operation accepts. -/
def isSignaling : Decimal → Bool
  | .nan signaling _ _ => signaling
  | _ => false

def isZero : Decimal → Bool
  | .finite _ c _ => c == 0
  | _ => false

def scaled? : Decimal → Option Scaled
  | .finite negative c e => some ⟨if negative then -(c : Int) else c, e⟩
  | _ => none

/-- The digits of a finite number. The point stays among the digits while the exponent is not
positive and at most five zeros would follow the point; otherwise one digit stands before the point
and an exponent follows. -/
def showDigits (c : Nat) (e : Int) : String :=
  let ds := digits c
  let count : Int := ds.length
  let left := e + count
  let place : Int := if e ≤ 0 ∧ -6 < left then left else 1
  let body :=
    if place ≤ 0 then
      "0." ++ String.ofList (List.replicate (-place).toNat '0' ++ ds)
    else if count ≤ place then
      String.ofList (ds ++ List.replicate (place - count).toNat '0')
    else
      String.ofList (ds.take place.toNat) ++ "." ++ String.ofList (ds.drop place.toNat)
  if left = place then body else body ++ "E" ++ showSigned (left - place)

def text : Decimal → String
  | .finite negative c e => (if negative then "-" else "") ++ showDigits c e
  | .infinite negative => if negative then "-Infinity" else "Infinity"
  | .nan signaling negative payload =>
    (if negative then "-" else "") ++ (if signaling then "sNaN" else "NaN") ++
      (if payload = 0 then "" else showNat payload)

/-- A payload: some digits, or nothing for none. -/
def readPayload? (signaling negative : Bool) (cs : List Char) : Option Decimal :=
  if cs.all (fun c => Text.isAsciiDigit c.toNat) then some (.nan signaling negative (ofDigits cs))
  else none

def readUnsigned? (negative : Bool) (cs : List Char) : Option Decimal :=
  let (whole, rest) := spanDigits cs
  let (fraction, rest) :=
    match rest with
    | '.' :: rest => spanDigits rest
    | _ => ([], rest)
  if whole.isEmpty && fraction.isEmpty then none
  else
    let coefficient := ofDigits (whole ++ fraction)
    let point : Int := -(fraction.length : Int)
    match rest with
    | [] => some (.finite negative coefficient point)
    | 'e' :: rest => (readInt? rest).map fun k => .finite negative coefficient (point + k)
    | _ => none

/-- Reads a number; letters may be of either case. -/
def read? (text : String) : Option Decimal :=
  let (negative, body) :=
    match text.toList.map Char.toLower with
    | '-' :: rest => (true, rest)
    | '+' :: rest => (false, rest)
    | cs => (false, cs)
  match body with
  | ['i', 'n', 'f'] | ['i', 'n', 'f', 'i', 'n', 'i', 't', 'y'] => some (.infinite negative)
  | 'n' :: 'a' :: 'n' :: rest => readPayload? false negative rest
  | 's' :: 'n' :: 'a' :: 'n' :: rest => readPayload? true negative rest
  | _ => readUnsigned? negative body

end Decimal

end RecordRules.Number
