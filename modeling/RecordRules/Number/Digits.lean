import RecordRules.Text.Character

/-!
Decimal digits of natural numbers, written and read.
-/

namespace RecordRules.Number

/-- The decimal digits of a number, most significant first; zero is a single digit. -/
def digits (n : Nat) : List Char :=
  Nat.toDigits 10 n

def digitCount (n : Nat) : Nat :=
  (digits n).length

def showNat (n : Nat) : String :=
  String.ofList (digits n)

/-- An integer in decimal, with a sign only when it is negative. -/
def showInt (i : Int) : String :=
  if i < 0 then "-" ++ showNat i.natAbs else showNat i.natAbs

/-- An integer in decimal with its sign always written. -/
def showSigned (i : Int) : String :=
  (if i < 0 then "-" else "+") ++ showNat i.natAbs

/-- The number that a run of ASCII digits denotes. -/
def ofDigits (cs : List Char) : Nat :=
  cs.foldl (fun n c => 10 * n + (c.toNat - 0x30)) 0

/-- The leading ASCII digits of some text, and what follows them. -/
def spanDigits (cs : List Char) : List Char × List Char :=
  cs.span fun c => Text.isAsciiDigit c.toNat

/-- The number of digits up to which an integer is read, and up to which it is written. -/
def greatestDigitCount : Nat := 4300

def tooManyDigitsText (count : Nat) : String :=
  "Exceeds the limit (" ++ showNat greatestDigitCount ++
    " digits) for integer string conversion: value has " ++ showNat count ++
    " digits; use sys.set_int_max_str_digits() to increase the limit"

def unwritableText : String :=
  "Exceeds the limit (" ++ showNat greatestDigitCount ++
    " digits) for integer string conversion; use sys.set_int_max_str_digits() to increase the limit"

def padded (width n : Nat) : String :=
  let ds := digits n
  String.ofList (List.replicate (width - ds.length) '0' ++ ds)

/-- An integer read from an optional sign and at least one ASCII digit. -/
def readInt? (cs : List Char) : Option Int :=
  let (negative, body) :=
    match cs with
    | '-' :: rest => (true, rest)
    | '+' :: rest => (false, rest)
    | _ => (false, cs)
  if !body.isEmpty && body.all (fun c => Text.isAsciiDigit c.toNat) then
    let n : Int := ofDigits body
    some (if negative then -n else n)
  else none

end RecordRules.Number
