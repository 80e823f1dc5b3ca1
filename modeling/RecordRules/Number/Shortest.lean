import RecordRules.Number.Binary

/-!
The shortest decimal text of a binary number.

The reals that round to a binary number form an interval around it, whose ends belong to it when
the mantissa is even. The text has the fewest digits with which some decimal lies in that
interval, and of the decimals with that many digits it is the one nearest to the number. It is
enough to try, for each count of digits, the two decimals next to the number itself.
-/

namespace RecordRules.Number

/-- How a shortest decimal is laid out. -/
structure DecimalStyle where
  /-- The least power of ten of the first digit that is written without an exponent. -/
  leastPositional : Int
  /-- The largest power of ten of the first digit that is written without an exponent. -/
  greatestPositional : Int
  /-- Whether a whole number gets a final `.0`. -/
  keepsPoint : Bool
  /-- The least number of digits of an exponent. -/
  exponentWidth : Nat

namespace Shortest

/-- `n * 10 ^ p` as a quotient of two natural numbers. -/
def tens (n : Nat) (p : Int) : Nat × Nat :=
  match p with
  | .ofNat k => (n * Nat.pow 10 k, 1)
  | .negSucc k => (n, Nat.pow 10 (k + 1))

def atMost (a b : Nat × Nat) : Bool :=
  a.1 * b.2 ≤ b.1 * a.2

def below (a b : Nat × Nat) : Bool :=
  a.1 * b.2 < b.1 * a.2

def distance (a b : Nat × Nat) : Nat × Nat :=
  let x := a.1 * b.2
  let y := b.1 * a.2
  (if x ≤ y then y - x else x - y, a.2 * b.2)

/-- `m * 2 ^ e` as a quotient of two natural numbers. -/
def twos (m : Nat) (e : Int) : Nat × Nat :=
  match e with
  | .ofNat k => (m * Nat.pow 2 k, 1)
  | .negSucc k => (m, Nat.pow 2 (k + 1))

/-- The power of ten of the first digit of a positive quotient. -/
def leadingPower (v : Nat × Nat) : Int :=
  let estimate : Int := (digitCount v.1 : Int) - (digitCount v.2 : Int)
  if below v (tens 1 estimate) then estimate - 1 else estimate

/-- The decimals with at most `17 - fuel` more digits that round to the number: coefficient and
power of ten. -/
def search (value low high : Nat × Nat) (closed : Bool) (lead : Int) : Nat → Nat → Nat × Int
  | 0, count => (value.1 / value.2, lead - count)
  | fuel + 1, count =>
    let p := lead - (count : Int) + 1
    let scale := tens 1 p
    let d := (value.1 * scale.2) / (value.2 * scale.1)
    let inside (n : Nat) : Bool :=
      let x := tens n p
      if closed then atMost low x && atMost x high else below low x && below x high
    let under := inside d
    let above := inside (d + 1)
    if under && above then
      let a := distance (tens d p) value
      let b := distance (tens (d + 1) p) value
      if below a b then (d, p)
      else if below b a then (d + 1, p)
      else (if d % 2 = 0 then d else d + 1, p)
    else if under then (d, p)
    else if above then (d + 1, p)
    else search value low high closed lead fuel (count + 1)

/-- The shortest decimal `c * 10 ^ p` that rounds to `m * 2 ^ e`, for a positive mantissa. The
interval is narrower below a power of two, where the numbers lie closer together. -/
def decimal (m : Nat) (e : Int) : Nat × Int :=
  let value := twos (4 * m) (e - 2)
  let narrow := m = Nat.pow 2 52 ∧ Binary.leastExponent < e
  let low := twos (if narrow then 4 * m - 1 else 4 * m - 2) (e - 2)
  let high := twos (4 * m + 2) (e - 2)
  let (c, p) := search value low high (m % 2 == 0) (leadingPower value) 17 1
  Scaled.trim c p

/-- Lays out the digits of a positive decimal `c * 10 ^ p`. -/
def layOut (style : DecimalStyle) (c : Nat) (p : Int) : String :=
  let ds := digits c
  let count : Int := ds.length
  let lead := count + p - 1
  if style.leastPositional ≤ lead ∧ lead ≤ style.greatestPositional then
    if 0 ≤ p then
      String.ofList (ds ++ List.replicate p.toNat '0') ++ (if style.keepsPoint then ".0" else "")
    else if 0 ≤ lead then
      let whole := (lead + 1).toNat
      String.ofList (ds.take whole) ++ "." ++ String.ofList (ds.drop whole)
    else
      "0." ++ String.ofList (List.replicate (-lead - 1).toNat '0' ++ ds)
  else
    let fraction := ds.drop 1
    String.ofList (ds.take 1) ++
      (if fraction.isEmpty then "" else "." ++ String.ofList fraction) ++
      "e" ++ (if lead < 0 then "-" else "+") ++ padded style.exponentWidth lead.natAbs

end Shortest

namespace Binary

/-- Numbers are written without an exponent from `0.0001` up to sixteen digits. -/
def plainStyle : DecimalStyle := ⟨-4, 15, true, 2⟩

/-- The parts of a complex number are written like numbers, but a whole part has no point. -/
def partStyle : DecimalStyle := ⟨-4, 15, false, 2⟩

def showMagnitude (style : DecimalStyle) : Binary → String
  | .nan => "nan"
  | .infinite _ => "inf"
  | .finite _ 0 _ => if style.keepsPoint then "0.0" else "0"
  | .finite _ m e =>
    let (c, p) := Shortest.decimal m e
    Shortest.layOut style c p

/-- Whether the text of a number starts with a minus sign. -/
def isNegative : Binary → Bool
  | .finite negative _ _ => negative
  | .infinite negative => negative
  | .nan => false

def showWith (style : DecimalStyle) (x : Binary) : String :=
  (if x.isNegative then "-" else "") ++ x.showMagnitude style

/-- The shortest text that reads back as the number. -/
def text (x : Binary) : String :=
  x.showWith plainStyle

/-- The text of a complex number: its imaginary part alone when the real part is a positive zero,
else both parts in brackets. -/
def showComplex (re im : Binary) : String :=
  if re.isZero && !re.isNegative then im.showWith partStyle ++ "j"
  else
    "(" ++ re.showWith partStyle ++ (if im.isNegative then "-" else "+") ++
      im.showMagnitude partStyle ++ "j)"

end Binary

end RecordRules.Number
