import RecordRules.Pattern.Matching
import RecordRules.Pattern.Reader
import RecordRules.Predicate.Family
import RecordRules.Predicate.Function
import RecordRules.Value.Membership

/-!
The tests that predicates make.

`Predicate.check` is asked once, when parameters are bound, and refuses those that a predicate
cannot work with. `Predicate.test` is asked for every value. It can be asked with any parameters,
and then those that no check has seen may make it fail.
-/

namespace RecordRules

namespace Pattern

def Fault.toForeign : Pattern.Fault → ForeignFault
  | .malformed message => .ofMessage .pattern message
  | .hugeCount => .ofMessage .overflow "the repetition number is too large"
  | .longCount digits => .ofMessage .value (Number.tooManyDigitsText digits)
  | .clashingModes => .ofMessage .value "ASCII and UNICODE flags are incompatible"
  | .hugeCharacter => .ofMessage .overflow "Python int too large to convert to C int"

def Fault.toFault (e : Pattern.Fault) : RecordRules.Fault := e.toForeign.toFault

/-- A pattern that does not follow the grammar is the one thing that callers are prepared for. -/
def Fault.toRefusal : Pattern.Fault → Refusal String
  | .malformed message => .expected message
  | e => .foreign e.toForeign

/-- What becomes of text that is to be a pattern: nothing, or it is refused. -/
abbrev Compiler := Label → Except (Refusal String) Unit

def compile : Compiler := fun label =>
  match Compiled.read label.text [] with
  | .ok _ => .ok ()
  | .error e => .error e.toRefusal

end Pattern

def onlyParam (params : List Value) : Except Fault Value :=
  match params with
  | [param] => .ok param
  | [] => .error (.ofMessage .value "not enough values to unpack (expected 1, got 0)")
  | _ => .error (.ofMessage .value "too many values to unpack (expected 1)")

def firstParam (params : List Value) : Except Fault Value :=
  match params with
  | param :: _ => .ok param
  | [] => .error (.ofMessage .index "tuple index out of range")

/-- The answer to a test, where a fault of type counts as no. -/
def noOnTypeFault (answer : Except Fault Bool) : Except Fault Bool :=
  match answer with
  | .error f => if f.isKind .type then .ok false else .error f
  | .ok b => .ok b

namespace Builtin

/-! ### Parameters -/

/-- Whether a value is a pattern or text that can be read as one. -/
def checkPattern (compile : Pattern.Compiler) (param : Value) : Except Fault Unit :=
  match param with
  | .regex _ => .ok ()
  | .text label =>
    (compile label).mapError (Refusal.toFault fun reason =>
      .definition (.malformedPattern label reason))
  | _ => .error (.definition (.notPattern param))

/-- Whether a value is an integer, or for the size itself a range. -/
def checkLength (b : Builtin) (param : Value) : Except Fault Unit :=
  match b, param with
  | _, .int _ | .size, .range _ _ _ => .ok ()
  | _, _ => .error (.definition (.notLength b param))

/-- Whether a value is a container other than text. -/
def checkCollection (b : Builtin) (param : Value) : Except Fault Unit :=
  if param.isContainer && param.text?.isNone then .ok ()
  else .error (.definition (.notCollection b param))

/-- Refuses parameters that a predicate cannot work with, when patterns are read in the given
way. -/
def checkBy (compile : Pattern.Compiler) (b : Builtin) (params : List Value) : Except Fault Unit :=
  match b with
  | .type => do
    let param ← onlyParam params
    if param.isClass then return () else throw (.definition (.notClass param))
  | .format => do checkPattern compile (← onlyParam params)
  | .size | .minSize | .maxSize => do checkLength b (← firstParam params)
  | .includedIn | .excludedFrom => do checkCollection b (← firstParam params)
  | .none | .filled | .empty | .eql | .gt | .gteq | .lt | .lteq => .ok ()

def check (b : Builtin) (params : List Value) : Except Fault Unit :=
  b.checkBy Pattern.compile params

/-! ### Values -/

/-- Whether a value is present and not empty; text is empty when it is blank. -/
def isFilled (v : Value) : Except Fault Bool :=
  if v.isBlank then .ok false
  else
    match v.text?, v.length? with
    | Option.none, some n => n.map (0 < ·)
    | _, _ => .ok true

def isEmpty (v : Value) : Except Fault Bool :=
  if v.isMissing then .ok true
  else
    match v.length? with
    | some n => n.map (· == 0)
    | Option.none => .ok false

def matchesFormat (text : String) (pattern : Value) : Except Fault Bool :=
  match pattern with
  | .regex p => .ok (p.matchesWhole text)
  | .text label =>
    match Pattern.Compiled.read label.text [] with
    | .ok p => .ok (p.matchesWhole text)
    | .error e => .error e.toFault
  | _ => do
    let _ ← pattern.hashKey
    match pattern with
    | .bytes _ _ => throw (.ofMessage .type "cannot use a bytes pattern on a string-like object")
    | _ => throw (.ofMessage .type "first argument must be string or compiled pattern")

/-- Whether a length is the size that is asked for, or one of a range of sizes. -/
def hasSize (v size : Value) : Except Fault Bool :=
  match v.length? with
  | Option.none => .ok false
  | some n => do
    let n ← n
    match size with
    | .range start stop step => return rangeHolds start stop step n
    | _ => (Value.int n).equal size

/-- Whether a length stands in a relation to the first parameter. -/
def sizeOrdered (r : Relation) (v : Value) (params : List Value) : Except Fault Bool :=
  match v.length? with
  | Option.none => .ok false
  | some n => do
    let n ← n
    (Value.int n).ordered r (← firstParam params)

/-- Whether the first parameter holds a value; a value that it cannot be asked for is not in it. -/
def isIncluded (v : Value) (params : List Value) : Except Fault Bool := do
  let collection ← firstParam params
  noOnTypeFault (collection.contains v)

/-- Whether a value stands in a relation to the first parameter; values without an order do not. -/
def isOrdered (r : Relation) (v : Value) (params : List Value) : Except Fault Bool :=
  if v.isMissing then .ok false
  else
    match params with
    | param :: _ => noOnTypeFault (v.ordered r param)
    | [] => (firstParam []).map fun _ => false

/-- Whether a value equals the first parameter; a missing value equals nothing itself. -/
def isEqual (v : Value) (params : List Value) : Except Fault Bool := do
  let param ← firstParam params
  if v.isMissing then return match param with | .none => true | _ => false
  else v.equal param

def test (b : Builtin) (v : Value) (params : List Value) : Except Fault Bool :=
  match b with
  | .type => do v.satisfies (← onlyParam params)
  | .none => .ok v.isMissing
  | .filled => isFilled v
  | .empty => isEmpty v
  | .format => do
    let pattern ← onlyParam params
    match v.text? with
    | some text => matchesFormat text pattern
    | Option.none => return false
  | .size => do hasSize v (← onlyParam params)
  | .minSize => sizeOrdered .ge v params
  | .maxSize => sizeOrdered .le v params
  | .includedIn => if v.isMissing then .ok false else isIncluded v params
  | .excludedFrom => if v.isMissing then .ok false else (isIncluded v params).map (!·)
  | .eql => isEqual v params
  | .gt => isOrdered .gt v params
  | .gteq => isOrdered .ge v params
  | .lt => isOrdered .lt v params
  | .lteq => isOrdered .le v params

end Builtin

namespace Predicate

def arity : Predicate → Nat
  | .builtin _ b => b.arity
  | .custom _ _ _ arity => arity

def name : Predicate → Value
  | .builtin _ b => .text (.name (.builtin b))
  | .custom _ name _ _ => name

/-- Refuses parameters that a predicate cannot work with, when patterns are read in the given
way. -/
def checkBy (compile : Pattern.Compiler) (p : Predicate) (params : List Value) :
    Except Fault Unit :=
  match p with
  | .builtin _ b => b.checkBy compile params
  | .custom .. => .ok ()

def check (p : Predicate) (params : List Value) : Except Fault Unit :=
  p.checkBy Pattern.compile params

def test (p : Predicate) (v : Value) (params : List Value) : Except Fault Bool :=
  match p with
  | .builtin _ b => b.test v params
  | .custom _ _ f _ => f.test v params

end Predicate

end RecordRules
