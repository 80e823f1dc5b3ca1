import RecordRules.Calendar

/-!
Dates, times and moments as expressions that would make them again.

The seconds and microseconds of a time are left out from the right while they are zero.
-/

namespace RecordRules.Calendar

open RecordRules.Number

/-- An offset as an expression: whole days are counted apart, so that the rest is not negative. -/
def Offset.literal (o : Offset) : String :=
  if o.microseconds = 0 then "datetime.timezone.utc"
  else
    let days := o.microseconds.fdiv perDay
    let rest := o.microseconds.fmod perDay
    let seconds := rest / perSecond
    let micro := rest % perSecond
    let parts :=
      (if days = 0 then [] else ["days=" ++ showInt days]) ++
        (if seconds = 0 then [] else ["seconds=" ++ showInt seconds]) ++
        (if micro = 0 then [] else ["microseconds=" ++ showInt micro])
    "datetime.timezone(datetime.timedelta(" ++ ", ".intercalate parts ++ "))"

/-- The arguments that make a time: hour and minute always, the rest as far as it is needed. -/
def Time.arguments (t : Time) : List String :=
  [showNat t.hour, showNat t.minute] ++
    (if t.second ≠ 0 ∨ t.microsecond ≠ 0 then [showNat t.second] else []) ++
    (if t.microsecond ≠ 0 then [showNat t.microsecond] else []) ++
    (match t.offset with | some o => ["tzinfo=" ++ o.literal] | none => [])

def Date.literal (d : Date) : String :=
  "datetime.date(" ++ ", ".intercalate [showNat d.year, showNat d.month, showNat d.day] ++ ")"

def Time.literal (t : Time) : String :=
  "datetime.time(" ++ ", ".intercalate t.arguments ++ ")"

def Moment.literal (m : Moment) : String :=
  "datetime.datetime(" ++
    ", ".intercalate ([showNat m.date.year, showNat m.date.month, showNat m.date.day] ++
      m.time.arguments) ++ ")"

end RecordRules.Calendar
