import RecordRules.Calendar
import RecordRules.Class
import RecordRules.Name
import RecordRules.Number.Decimal
import RecordRules.Pattern.Syntax

/-!
Values.

A record under validation can hold anything, and a report quotes what it found and what it
expected. So `Value` ranges over plain data (numbers, text, dates, collections), records whose
fields may fail when they are read, and also the objects of the library itself: predicates,
predicate expressions, rules, reports and faults.

Two objects can look the same and yet be two. Where that shows, a value has a `tag`: each object
that is made gets a new one, and `identical` values have the same.
-/

namespace RecordRules

open Number Calendar

/-- The kinds of fault that come from values and their operations. -/
inductive FaultKind where
  | value | key | noAttribute | type | zeroDivision | runtime | index | lookup | overflow
  | invalidOperation | pattern | decode | frozen | recursion
deriving DecidableEq, Repr, Inhabited

/-- The functions that a custom predicate can be made of. -/
inductive Function where
  /-- The same answer for every value. -/
  | constant (answer : Bool)
  /-- The value itself. -/
  | identity
  /-- Whether an integer is even. -/
  | even
  /-- Whether the value lies between two parameters. -/
  | between
  /-- The entry of a dictionary under the key `missing`. -/
  | entry
  /-- A division by zero. -/
  | divide
  /-- A fault of the kind that the parameters name. -/
  | fail
  /-- The same answer for every value, with a note of the call. -/
  | spy (answer : Bool)
  /-- Something that is no function, of the named class. -/
  | other (className : String)
deriving DecidableEq, Repr, Inhabited

/-- How an evaluator reads paths and what it writes to the log. -/
structure Config where
  /-- Whether a path is walked through nested records; otherwise it is one key as a whole. -/
  nestedPaths : Bool
  /-- What stands between the segments of a path. -/
  separator : String
  /-- Whether each failed rule is logged. -/
  logFailures : Bool
deriving DecidableEq, Repr

/-- Walk paths at dots and log no failures. -/
def Config.standard : Config := ⟨true, ".", false⟩

instance : Inhabited Config := ⟨.standard⟩

mutual

inductive Value where
  | none
  /-- Stands for what is missing from a record. -/
  | absent
  | bool (b : Bool)
  | int (i : Int)
  | float (tag : Nat) (x : Binary)
  | decimal (tag : Nat) (x : Decimal)
  | complex (tag : Nat) (re im : Binary)
  | text (label : Label)
  | bytes (mutable : Bool) (content : List UInt8)
  | date (d : Date)
  | moment (m : Moment)
  | time (t : Time)
  | range (start stop step : Int)
  | list (items : List Value)
  | tuple (items : List Value)
  | set (frozen : Bool) (items : List Value)
  | dict (readOnly : Bool) (entries : List (Value × Value))
  | mapping (m : Mapping)
  | record (r : Record)
  | type (c : Class)
  | regex (p : Pattern.Compiled)
  | function (f : Function)
  | fault (f : Fault)
  | predicate (p : Predicate)
  | expr (e : Expr)
  | rule (r : Rule)
  | ruleSet (rs : RuleSet)
  | error (e : Error)
  | errorSet (es : ErrorSet)
  | result (r : Result)
  | config (c : Config)
  | evaluator (c : Config)
  | registry (handle : Nat)
  | builder (handle : Nat)
  | validatorClass (name : String) (rules : RuleSet) (config : Config)
  | validator (tag : Nat) (name : String) (rules : RuleSet) (config : Config) (record : Value)

/-- A mapping some of whose keys fail when they are read. -/
structure Mapping where
  tag : Nat
  label : String
  entries : List (Value × Value)
  failing : List (String × Fault)

/-- A record with named attributes. -/
structure Record where
  tag : Nat
  label : String
  /-- Attributes of this record alone. -/
  attributes : List (String × Value)
  /-- Declared attributes, some without a value. -/
  slots : List (String × Option Value)
  /-- Computed attributes. -/
  properties : List (String × Value)
  /-- Computed attributes whose computation fails. -/
  failing : List (String × Fault)
  /-- Answers for attributes that are found nowhere else. -/
  hook : Option Hook
  length : Option Length
  /-- The fault of any comparison with the record. -/
  comparison : Option Fault

/-- The answers for attributes that a record does not have: a value, a fault, or for any other name
the fault that there is no such attribute. -/
structure Hook where
  values : List (String × Value)
  failing : List (String × Fault)

/-- The outcome of asking a record for its length. -/
inductive Length where
  | given (n : Int)
  | failing (f : Fault)

/-- What went wrong. -/
inductive Fault where
  /-- A fault of values or of their operations. -/
  | plain (kind : FaultKind) (arguments : List Value)
  /-- A fault of the engine without further detail. -/
  | engine (arguments : List Value)
  | unknownPredicate (name : Label) (valid : List Label)
  | definition (d : Defect)
  /-- A path that cannot address anything. -/
  | badPath (path : Value) (reason : Value)
  /-- A predicate that failed while it tested a value. -/
  | evaluation (path ruleName origin : Value)
  /-- A record that failed while an attribute was read. -/
  | resolution (path ruleName origin : Value)

/-- What is wrong with the definition of a rule. -/
inductive Defect where
  /-- A message and a path given by hand. -/
  | stated (message path : Value)
  | parameterCount (name : String) (expected given : Nat)
  | notClass (given : Value)
  | notPattern (given : Value)
  | malformedPattern (source : Label) (reason : String)
  | notCollection (predicate : Builtin) (given : Value)
  | notLength (predicate : Builtin) (given : Value)
  | fewOperands (connective : Connective) (least : Nat)
  | notOperand (connective : Connective) (given : Value)
  | notExpression (path : Label) (given : Value)
  | notRule (given : Value)
  | notRuleSet (className : String)
  | notRules (validator className : String)
  | unknownClass (given : Value) (path : String)
  | emptyGroup (connective : Connective) (path : String)
  | crowdedNegation (path : String)
  | document (message path : String)
  | json (message : String)
  | notObject

/-- A named test over one value. -/
inductive Predicate where
  | builtin (tag : Nat) (b : Builtin)
  | custom (tag : Nat) (name : Value) (function : Function) (arity : Nat)

/-- A predicate with its parameters, or a combination of such. -/
inductive Expr where
  | bound (p : Predicate) (params : List Value)
  | all (operands : List Expr)
  | any (operands : List Expr)
  | negation (operand : Expr)

/-- An expression that the value at a path has to satisfy. -/
structure Rule where
  path : Label
  expr : Expr

/-- Rules in the order of their declaration. -/
structure RuleSet where
  rules : List Rule

/-- One failed rule: where, by which expression, what was expected and what was found. -/
structure Error where
  path : Label
  ruleName : Label
  expected : Value
  actual : Value

/-- Errors grouped by attribute, the attributes in the order of their first error. -/
structure ErrorSet where
  groups : List (Label × List Error)

/-- The outcome of an evaluation. -/
structure Result where
  errors : ErrorSet

end

instance : Inhabited Value := ⟨.none⟩
instance : Inhabited Fault := ⟨.engine []⟩

namespace Value

def ofString (s : String) : Value := .text (.plain s)

def text? : Value → Option String
  | .text label => some label.text
  | _ => Option.none

/-- A dictionary whose keys are plain text. -/
def object (entries : List (String × Value)) : Value :=
  .dict false (entries.map fun (k, v) => (ofString k, v))

end Value

def Fault.ofMessage (kind : FaultKind) (message : String) : Fault :=
  .plain kind [Value.ofString message]

/-- A fault that does not come from the engine. -/
structure ForeignFault where
  kind : FaultKind
  arguments : List Value

namespace ForeignFault

def toFault (f : ForeignFault) : Fault := .plain f.kind f.arguments

def ofMessage (kind : FaultKind) (message : String) : ForeignFault :=
  ⟨kind, [Value.ofString message]⟩

end ForeignFault

/-- How a function refuses what it is given: in the one way that its callers are prepared for, or
with a fault that they let through. -/
inductive Refusal (μ : Type) where
  | expected (reason : μ)
  | foreign (f : ForeignFault)

/-- A refusal as a fault, when the expected one is made a fault in the given way. -/
def Refusal.toFault {μ : Type} (prepared : μ → Fault) : Refusal μ → Fault
  | .expected reason => prepared reason
  | .foreign f => f.toFault

end RecordRules
