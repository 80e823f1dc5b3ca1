import RecordRules.Text.Printable

/-!
Quoted text and quoted bytes.

The quote is single, unless the text holds single quotes and no double one. A backslash and the
quote itself are escaped by a backslash; tabs and line ends have letters of their own; any other
character that cannot be printed is written by its code with two, four or eight hexadecimal digits.
Bytes are quoted in the same way, but every byte outside printable ASCII gets two digits.
-/

namespace RecordRules.Text

def hexDigit (n : Nat) : Char :=
  Nat.digitChar (n % 16)

def hex (width n : Nat) : List Char :=
  match width with
  | 0 => []
  | w + 1 => hex w (n / 16) ++ [hexDigit n]

def quoteFor (single double : Bool) : Char :=
  if single && !double then '"' else '\''

/-- A character inside quotes. -/
def escape (quote : Char) (c : Char) : List Char :=
  if c = quote ∨ c = '\\' then ['\\', c]
  else if c = '\t' then ['\\', 't']
  else if c = '\n' then ['\\', 'n']
  else if c = '\r' then ['\\', 'r']
  else if isPrintable c.toNat then [c]
  else if c.toNat < 0x100 then '\\' :: 'x' :: hex 2 c.toNat
  else if c.toNat < 0x10000 then '\\' :: 'u' :: hex 4 c.toNat
  else '\\' :: 'U' :: hex 8 c.toNat

def quoted (s : String) : String :=
  let cs := s.toList
  let q := quoteFor (cs.contains '\'') (cs.contains '"')
  String.ofList (q :: cs.flatMap (escape q) ++ [q])

/-- A byte inside quotes; the characters of `marked` get a backslash. -/
def escapeByte (marked : List Char) (b : UInt8) : List Char :=
  let c := Char.ofNat b.toNat
  if c ∈ marked ∨ c = '\\' then ['\\', c]
  else if c = '\t' then ['\\', 't']
  else if c = '\n' then ['\\', 'n']
  else if c = '\r' then ['\\', 'r']
  else if 0x20 ≤ b.toNat ∧ b.toNat < 0x7f then [c]
  else '\\' :: 'x' :: hex 2 b.toNat

/-- Bytes between quotes, marked by a leading `b`. -/
def quotedBytes (bs : List UInt8) : String :=
  let q := quoteFor (bs.contains 0x27) (bs.contains 0x22)
  String.ofList ('b' :: q :: bs.flatMap (escapeByte [q]) ++ [q])

/-- Bytes that can change between quotes: a single quote gets a backslash also between double
ones. -/
def quotedArray (bs : List UInt8) : String :=
  let q := quoteFor (bs.contains 0x27) (bs.contains 0x22)
  String.ofList ('b' :: q :: bs.flatMap (escapeByte ['\'']) ++ [q])

end RecordRules.Text
