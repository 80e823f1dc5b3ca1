/-!
Exact decimal fractions `c * 10 ^ e`.

Every integer, every binary fraction and every finite decimal number is one, so they can all be
compared here without rounding. A fraction has many spellings (`10 * 10 ^ 0` and `1 * 10 ^ 1`);
`normalize` picks the one whose coefficient does not end in a zero.
-/

namespace RecordRules.Number

/-- The number `coefficient * 10 ^ exponent`. -/
structure Scaled where
  coefficient : Int
  exponent : Int
deriving DecidableEq, Repr, Inhabited

namespace Scaled

def ofInt (i : Int) : Scaled := ⟨i, 0⟩

/-- The binary fraction `m * 2 ^ e`: a negative power of two is `5 ^ k * 10 ^ -k`. -/
def ofBinary (m : Int) (e : Int) : Scaled :=
  match e with
  | .ofNat k => ⟨m * Nat.pow 2 k, 0⟩
  | .negSucc k => ⟨m * Nat.pow 5 (k + 1), -(k + 1)⟩

/-- The coefficient that the number has when it is spelled with the exponent `e`, which is not
above its own. -/
def coefficientAt (s : Scaled) (e : Int) : Int :=
  s.coefficient * Nat.pow 10 (s.exponent - e).toNat

/-- The order of the numbers, by their coefficients at a common exponent. -/
def compare (a b : Scaled) : Ordering :=
  let e := min a.exponent b.exponent
  Ord.compare (a.coefficientAt e) (b.coefficientAt e)

/-- Removes final zeros of a positive coefficient, counting them into the exponent. -/
def trim (c : Nat) (e : Int) : Nat × Int :=
  if h : c ≠ 0 ∧ c % 10 = 0 then trim (c / 10) (e + 1) else (c, e)
termination_by c
decreasing_by omega

/-- The spelling whose coefficient does not end in a zero; zero itself is `0 * 10 ^ 0`. -/
def normalize (s : Scaled) : Scaled :=
  if s.coefficient = 0 then ⟨0, 0⟩
  else
    let (c, e) := trim s.coefficient.natAbs s.exponent
    ⟨if s.coefficient < 0 then -(c : Int) else c, e⟩

def toInt? (s : Scaled) : Option Int :=
  let n := s.normalize
  if 0 ≤ n.exponent then some (n.coefficient * Nat.pow 10 n.exponent.toNat) else none

end Scaled

end RecordRules.Number
