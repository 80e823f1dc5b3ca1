import RecordRules.Number.Digits

/-!
Calendar dates, times of day and moments, read and written in ISO form.

A time or a moment may carry an offset from universal time. Two values with offsets are ordered by
the instant that they denote; a value with an offset and one without are never equal and cannot be
ordered.
-/

namespace RecordRules.Calendar

open RecordRules.Number

/-- A day of the Gregorian calendar. -/
structure Date where
  year : Nat
  month : Nat
  day : Nat
deriving DecidableEq, Repr, Inhabited

/-- An offset from universal time in microseconds. -/
structure Offset where
  microseconds : Int
deriving DecidableEq, Repr, Inhabited

structure Time where
  hour : Nat
  minute : Nat
  second : Nat
  microsecond : Nat
  offset : Option Offset
deriving DecidableEq, Repr, Inhabited

structure Moment where
  date : Date
  time : Time
deriving DecidableEq, Repr, Inhabited

/-- Microseconds in a second. -/
def perSecond : Int := 1000000

def perDay : Int := 86400 * perSecond

/-- Days from the first day of year zero to the first day of a month, counting years from March so
that the leap day ends a year. -/
def Date.ordinal (d : Date) : Int :=
  let y : Int := if d.month ≤ 2 then (d.year : Int) - 1 else d.year
  let m : Int := if d.month ≤ 2 then (d.month : Int) + 9 else (d.month : Int) - 3
  365 * y + y / 4 - y / 100 + y / 400 + (153 * m + 2) / 5 + d.day

/-- Whether February has a leap day. -/
def isLeap (year : Nat) : Bool :=
  year % 4 == 0 && (year % 100 != 0 || year % 400 == 0)

def daysIn (year month : Nat) : Nat :=
  match month with
  | 2 => if isLeap year then 29 else 28
  | 4 | 6 | 9 | 11 => 30
  | _ => 31

/-- Microseconds since midnight by the time's own clock. -/
def Time.clock (t : Time) : Int :=
  ((t.hour * 3600 + t.minute * 60 + t.second : Nat) : Int) * perSecond + t.microsecond

/-- Microseconds since midnight, taken back to universal time. -/
def Time.instant (t : Time) : Int :=
  t.clock - (t.offset.map (·.microseconds)).getD 0

/-- Microseconds since the first day, taken back to universal time. -/
def Moment.instant (m : Moment) : Int :=
  m.date.ordinal * perDay + m.time.instant

/-! ### Writing -/

/-- A date as `YYYY-MM-DD`. -/
def Date.text (d : Date) : String :=
  padded 4 d.year ++ "-" ++ padded 2 d.month ++ "-" ++ padded 2 d.day

/-- An offset as `±HH:MM`, with seconds and microseconds when it has some. -/
def Offset.text (o : Offset) : String :=
  let n := o.microseconds.natAbs
  let micro := n % 1000000
  let s := n / 1000000
  (if o.microseconds < 0 then "-" else "+") ++ padded 2 (s / 3600) ++ ":" ++
    padded 2 (s / 60 % 60) ++
    (if s % 60 ≠ 0 ∨ micro ≠ 0 then ":" ++ padded 2 (s % 60) else "") ++
    (if micro ≠ 0 then "." ++ padded 6 micro else "")

/-- A time as `HH:MM:SS`, with microseconds and an offset when it has them. -/
def Time.text (t : Time) : String :=
  padded 2 t.hour ++ ":" ++ padded 2 t.minute ++ ":" ++ padded 2 t.second ++
    (if t.microsecond ≠ 0 then "." ++ padded 6 t.microsecond else "") ++
    ((t.offset.map Offset.text).getD "")

/-- A moment as its date and its time with a mark between them. -/
def Moment.showWith (mark : String) (m : Moment) : String :=
  m.date.text ++ mark ++ m.time.text

/-- A moment in ISO form. -/
def Moment.text (m : Moment) : String :=
  m.showWith "T"

/-! ### Reading -/

/-- The number written by exactly `n` leading ASCII digits, and what follows. -/
def readField? (n : Nat) (cs : List Char) : Option (Nat × List Char) :=
  let ds := cs.take n
  if ds.length = n ∧ ds.all (fun c => Text.isAsciiDigit c.toNat) then
    some (ofDigits ds, cs.drop n)
  else none

/-- What follows an expected character. -/
def expect? (c : Char) : List Char → Option (List Char)
  | d :: rest => if c = d then some rest else none
  | [] => none

def readDate? (cs : List Char) : Option (Date × List Char) := do
  let (y, cs) ← readField? 4 cs
  let cs ← expect? '-' cs
  let (m, cs) ← readField? 2 cs
  let cs ← expect? '-' cs
  let (d, cs) ← readField? 2 cs
  if 1 ≤ y ∧ 1 ≤ m ∧ m ≤ 12 ∧ 1 ≤ d ∧ d ≤ daysIn y m then some (⟨y, m, d⟩, cs) else none

/-- Up to three two-digit fields with colons between them and a fraction of up to six digits:
hours, minutes, seconds and microseconds. -/
def readClock? (cs : List Char) : Option (Nat × Nat × Nat × Nat × List Char) := do
  let (h, cs) ← readField? 2 cs
  match expect? ':' cs with
  | none => some (h, 0, 0, 0, cs)
  | some cs =>
    let (m, cs) ← readField? 2 cs
    match expect? ':' cs with
    | none => some (h, m, 0, 0, cs)
    | some cs =>
      let (s, cs) ← readField? 2 cs
      match expect? '.' cs with
      | none => some (h, m, s, 0, cs)
      | some cs =>
        let (ds, rest) := spanDigits cs
        let six := (ds ++ List.replicate 6 '0').take 6
        if ds.isEmpty then none else some (h, m, s, ofDigits six, rest)

/-- An offset: a sign and a clock, or the letter `Z`. -/
def readOffset? : List Char → Option Offset
  | ['Z'] => some ⟨0⟩
  | sign :: cs =>
    if sign = '+' ∨ sign = '-' then
      match readClock? cs with
      | some (h, m, s, u, []) =>
        let n : Int := ((h * 3600 + m * 60 + s : Nat) : Int) * perSecond + u
        some ⟨if sign = '-' then -n else n⟩
      | _ => none
    else none
  | [] => none

def readTime? (cs : List Char) : Option Time := do
  let (h, m, s, u, cs) ← readClock? cs
  let offset ← if cs.isEmpty then some none else (readOffset? cs).map some
  if h < 24 ∧ m < 60 ∧ s < 60 then some ⟨h, m, s, u, offset⟩ else none

def Date.read? (text : String) : Option Date :=
  match readDate? text.toList with
  | some (d, []) => some d
  | _ => none

def Time.read? (text : String) : Option Time :=
  readTime? text.toList

/-- Reads a moment: a date alone is its midnight, and any character may stand before the time. -/
def Moment.read? (text : String) : Option Moment :=
  match readDate? text.toList with
  | some (d, []) => some ⟨d, ⟨0, 0, 0, 0, none⟩⟩
  | some (d, _ :: cs) => (readTime? cs).map fun t => ⟨d, t⟩
  | none => none

/-! ### Order -/

def Date.compare (a b : Date) : Ordering :=
  Ord.compare a.ordinal b.ordinal

/-- Times in the order of their instants, or of their clocks when neither has an offset; times of
which only one has an offset have no order. -/
def Time.compare? (a b : Time) : Option Ordering :=
  if a.offset.isSome = b.offset.isSome then some (Ord.compare a.instant b.instant) else none

/-- Moments in the order of their instants; moments of which only one has an offset have none. -/
def Moment.compare? (a b : Moment) : Option Ordering :=
  if a.time.offset.isSome = b.time.offset.isSome then some (Ord.compare a.instant b.instant)
  else none

end RecordRules.Calendar
