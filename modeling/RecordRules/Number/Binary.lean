import RecordRules.Number.Digits
import RecordRules.Number.Scaled

/-!
Double-precision binary numbers.

A finite number is a sign, a mantissa below `2 ^ 53` and a power of two that is at least
`2 ^ -1074`. `ofRatio` rounds a fraction to the nearest such number, a tie to the even mantissa,
and `read?` reads decimal text in the same way, so the text's value is rounded once.
-/

namespace RecordRules.Number

/-- A double-precision number: `±mantissa * 2 ^ exponent`, an infinity or not a number. -/
inductive Binary where
  | finite (negative : Bool) (mantissa : Nat) (exponent : Int)
  | infinite (negative : Bool)
  | nan
deriving DecidableEq, Repr, Inhabited

namespace Binary

def leastExponent : Int := -1074

/-- The largest exponent of a mantissa of 53 bits. -/
def greatestExponent : Int := 971

def isFinite : Binary → Bool
  | .finite .. => true
  | _ => false

def isZero : Binary → Bool
  | .finite _ m _ => m == 0
  | _ => false

def scaled? : Binary → Option Scaled
  | .finite negative m e => some (Scaled.ofBinary (if negative then -(m : Int) else m) e)
  | _ => none

/-- The quotient of two numbers rounded to the nearest integer, a tie to the even one. -/
def roundQuotient (num den : Nat) : Nat :=
  let q := num / den
  let r := num % den
  if 2 * r < den then q
  else if 2 * r = den then (if q % 2 = 0 then q else q + 1)
  else q + 1

/-- `num / (den * 2 ^ e)` as a quotient of two natural numbers. -/
def scaleQuotient (num den : Nat) (e : Int) : Nat × Nat :=
  match e with
  | .ofNat k => (num, den * Nat.pow 2 k)
  | .negSucc k => (num * Nat.pow 2 (k + 1), den)

/-- The number nearest to `num / den`. The exponent is first estimated from the bit lengths, which
is off by at most one, and then never taken below the least. -/
def ofRatio (negative : Bool) (num den : Nat) : Binary :=
  if num = 0 then .finite negative 0 leastExponent
  else
    let estimate : Int := (Nat.log2 num : Int) - (Nat.log2 den : Int) - 52
    let (n, d) := scaleQuotient num den estimate
    let e := max leastExponent (if n / d < Nat.pow 2 52 then estimate - 1 else estimate)
    let (n, d) := scaleQuotient num den e
    let m := roundQuotient n d
    let (m, e) := if m = Nat.pow 2 53 then (Nat.pow 2 52, e + 1) else (m, e)
    if greatestExponent < e then .infinite negative else .finite negative m e

/-- The number nearest to `±coefficient * 10 ^ exponent`. A number of more than 400 digits before
the point is infinite, and one with more than 400 zeros after it is zero. -/
def ofDecimal (negative : Bool) (coefficient : Nat) (exponent : Int) : Binary :=
  if coefficient = 0 then .finite negative 0 leastExponent
  else
    let magnitude := (digitCount coefficient : Int) + exponent
    if 400 < magnitude then .infinite negative
    else if magnitude < -400 then .finite negative 0 leastExponent
    else
      match exponent with
      | .ofNat k => ofRatio negative (coefficient * Nat.pow 10 k) 1
      | .negSucc k => ofRatio negative coefficient (Nat.pow 10 (k + 1))

def ofInt (i : Int) : Binary :=
  ofRatio (i < 0) i.natAbs 1

/-- An unsigned decimal numeral: digits, an optional point with more digits and an optional
exponent. -/
def readUnsigned? (negative : Bool) (cs : List Char) : Option Binary :=
  let (whole, rest) := spanDigits cs
  let (fraction, rest) :=
    match rest with
    | '.' :: rest => spanDigits rest
    | _ => ([], rest)
  if whole.isEmpty && fraction.isEmpty then none
  else
    let coefficient := ofDigits (whole ++ fraction)
    let point : Int := -(fraction.length : Int)
    match rest with
    | [] => some (ofDecimal negative coefficient point)
    | e :: rest =>
      if e == 'e' || e == 'E' then
        (readInt? rest).map fun k => ofDecimal negative coefficient (point + k)
      else none

/-- Reads a decimal numeral with an optional sign, or one of the words for the special values. -/
def read? (text : String) : Option Binary :=
  let (negative, body) :=
    match text.toList with
    | '-' :: rest => (true, rest)
    | '+' :: rest => (false, rest)
    | cs => (false, cs)
  match body.map Char.toLower with
  | ['n', 'a', 'n'] => some .nan
  | ['i', 'n', 'f'] | ['i', 'n', 'f', 'i', 'n', 'i', 't', 'y'] => some (.infinite negative)
  | _ => readUnsigned? negative body

end Binary

end RecordRules.Number
