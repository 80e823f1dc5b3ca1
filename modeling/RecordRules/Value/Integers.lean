import RecordRules.Value.Display

/-!
The integers in the text of a value.

The text of a value is made of the texts of its parts, and the text of an integer is made only up to
a number of digits. So whether a value can be written is a matter of the integers in it: those that
stand in it at any depth where its text shows them. Objects that are shown by a name, and faults
that are shown by a message made earlier, show no integers.
-/

namespace RecordRules

mutual

/-- The integers that the text of a value shows. -/
def Value.integers : Value → List Int
  | .int i => [i]
  | .range start stop step => [start, stop, step]
  | .list items | .tuple items | .set _ items => integersOfAll items
  | .dict _ entries => integersOfEntries entries
  | .fault f => f.integers
  | .predicate p => p.integers
  | .expr e => e.integers
  | .rule r => r.integers
  | .ruleSet ⟨rules⟩ => integersOfRules rules
  | .error e => e.integers
  | .errorSet ⟨groups⟩ | .result ⟨⟨groups⟩⟩ => integersOfGroups groups
  | _ => []
termination_by structural v => v

def integersOfAll : List Value → List Int
  | [] => []
  | v :: vs => v.integers ++ integersOfAll vs
termination_by structural vs => vs

def integersOfEntries : List (Value × Value) → List Int
  | [] => []
  | (k, v) :: rest => k.integers ++ v.integers ++ integersOfEntries rest
termination_by structural es => es

/-- A predicate is shown by its name, which need not be text. -/
def Predicate.integers : Predicate → List Int
  | .builtin _ _ => []
  | .custom _ name _ _ => name.integers
termination_by structural p => p

def Expr.integers : Expr → List Int
  | .bound p params => p.integers ++ integersOfAll params
  | .all es | .any es => integersOfOperands es
  | .negation e => e.integers
termination_by structural e => e

def integersOfOperands : List Expr → List Int
  | [] => []
  | e :: es => e.integers ++ integersOfOperands es
termination_by structural es => es

def Rule.integers : Rule → List Int
  | ⟨_, e⟩ => e.integers
termination_by structural r => r

def integersOfRules : List Rule → List Int
  | [] => []
  | r :: rs => r.integers ++ integersOfRules rs
termination_by structural rs => rs

def Error.integers : Error → List Int
  | ⟨_, _, expected, actual⟩ => expected.integers ++ actual.integers
termination_by structural e => e

def integersOfErrors : List Error → List Int
  | [] => []
  | e :: es => e.integers ++ integersOfErrors es
termination_by structural es => es

def integersOfGroups : List (Label × List Error) → List Int
  | [] => []
  | (_, es) :: rest => integersOfErrors es ++ integersOfGroups rest
termination_by structural gs => gs

/-- What a fault of values was made of is shown with it, and so is a message given by hand. -/
def Fault.integers : Fault → List Int
  | .plain _ arguments | .engine arguments => integersOfAll arguments
  | .definition d => d.integers
  | _ => []
termination_by structural f => f

def Defect.integers : Defect → List Int
  | .stated message _ => message.integers
  | _ => []
termination_by structural d => d

end

/-- An integer has so many digits that no text of it is made. -/
def Number.IsUnwritable (i : Int) : Prop := greatestDigitCount < digitCount i.natAbs

instance : DecidablePred Number.IsUnwritable :=
  fun i => inferInstanceAs (Decidable (_ < Number.digitCount i.natAbs))

/-- Nothing, if the text of a value can be made. -/
def Value.checkWritable (v : Value) : Except ForeignFault Unit :=
  if ∃ i ∈ v.integers, Number.IsUnwritable i then
    .error (.ofMessage .value Number.unwritableText)
  else .ok ()

end RecordRules
