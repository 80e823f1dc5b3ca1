import RecordRules.Text.Character
import RecordRules.Value.Key

/-!
Families of values: the decision table of the type predicate.

Every value belongs to one family, and a table says which classes the members of a family satisfy.
A number satisfies every numeric class, and so does text that reads like a number. A class that the
table knows is answered by the table alone; any other class by asking what the value is an
instance of. Missing and blank values satisfy no class.
-/

namespace RecordRules

inductive Family where
  | missing | blank | boolean | integer | float | decimal | numericString | string | datetime
  | date | time | sequence | set | mapping | nonFinite | other
deriving DecidableEq, Repr, Inhabited

namespace Family

def name : Family → String
  | .missing => "missing"
  | .blank => "blank"
  | .boolean => "boolean"
  | .integer => "integer"
  | .float => "float"
  | .decimal => "decimal"
  | .numericString => "numeric_string"
  | .string => "string"
  | .datetime => "datetime"
  | .date => "date"
  | .time => "time"
  | .sequence => "sequence"
  | .set => "set"
  | .mapping => "mapping"
  | .nonFinite => "non_finite"
  | .other => "other"

/-- The numeric classes, with text. -/
def numericClasses : List Class :=
  [.int, .float, .decimal, .str, .number, .complexNumber, .real, .rational, .integral]

/-- The classes that the members of a family satisfy. -/
def accepted : Family → List Class
  | .integer | .float | .decimal | .numericString => numericClasses
  | .boolean => [.bool]
  | .string => [.str]
  | .datetime => [.datetime, .date]
  | .date => [.date]
  | .time => [.time]
  | .sequence => [.list, .tuple]
  | .set => [.set, .frozenset]
  | .mapping => [.dict]
  | .missing | .blank | .nonFinite | .other => []

/-- The classes that the table knows. -/
def known : List Class :=
  numericClasses ++ [.bool, .datetime, .date, .time, .list, .tuple, .set, .frozenset, .dict]

end Family

/-! ### Numeric text -/

def dropSign : List Char → List Char
  | '+' :: rest | '-' :: rest => rest
  | cs => cs

/-- Whether the rest of a numeral is nothing or an exponent: a letter, an optional sign and at least
one digit. -/
def isExponent : List Char → Bool
  | [] => true
  | c :: rest =>
    let ds := dropSign rest
    (c == 'e' || c == 'E') && !ds.isEmpty && ds.all fun d => Text.isDigit d.toNat

/-- Whether text is a numeral: digits with an optional point among or around them, between an
optional sign and an optional exponent. -/
def isNumeral (cs : List Char) : Bool :=
  let (whole, rest) := (dropSign cs).span fun d => Text.isDigit d.toNat
  match rest with
  | '.' :: rest =>
    let (fraction, rest) := rest.span fun d => Text.isDigit d.toNat
    (!whole.isEmpty || !fraction.isEmpty) && isExponent rest
  | _ => !whole.isEmpty && isExponent rest

def isNumericText (s : String) : Bool :=
  isNumeral (Text.strip s.toList)

/-! ### The table at work -/

namespace Value

def family : Value → Family
  | .none | .absent => .missing
  | .text label =>
    if Text.isBlankText label.text then .blank
    else if isNumericText label.text then .numericString
    else .string
  | .bool _ => .boolean
  | .int _ => .integer
  | .float _ x => if x.isFinite then .float else .nonFinite
  | .decimal _ x => if x.isFinite then .decimal else .nonFinite
  | .moment _ => .datetime
  | .date _ => .date
  | .time _ => .time
  | .dict _ _ | .mapping _ => .mapping
  | .list _ | .tuple _ => .sequence
  | .set _ _ => .set
  | _ => .other

/-- The fault of asking for instances of something that is no class. -/
def noClassFault : Fault :=
  .ofMessage .type "isinstance() arg 2 must be a type, a tuple of types, or a union"

mutual

/-- Whether a value is an instance of a class, or of some class in a tuple of classes. -/
def isInstance (v : Value) : Value → Except Fault Bool
  | .type c => .ok (v.isA c)
  | .validatorClass name _ _ =>
    .ok (match v with | .validator _ name' _ _ _ => name == name' | _ => false)
  | .tuple targets => isInstanceOfAny v targets
  | _ => .error noClassFault
termination_by structural target => target

/-- Whether a value is an instance of one of some targets, tried from the left. -/
def isInstanceOfAny (v : Value) : List Value → Except Fault Bool
  | [] => .ok false
  | target :: rest => do
    if ← isInstance v target then return true else isInstanceOfAny v rest
termination_by structural targets => targets

end

/-- Whether a value satisfies a class, by its family or else as an instance. -/
def satisfies (v target : Value) : Except Fault Bool :=
  match v.family with
  | .missing | .blank => .ok false
  | family => do
    let _ ← target.hashKey
    match target with
    | .type c =>
      if Family.known.contains c then return family.accepted.contains c else return v.isA c
    | _ => isInstance v target

end Value

end RecordRules
