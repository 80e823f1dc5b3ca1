/-!
The names of the predicates that every registry starts with, and of the three connectives.

Each name is also a piece of text (`PredicateName.text`), and wherever text is expected a name may
stand for it: a `Label` is one or the other, and two labels are the same when their texts are.
-/

namespace RecordRules

/-- The predicates that come with the library. -/
inductive Builtin where
  | type | none | filled | empty | format | size | minSize | maxSize | includedIn | excludedFrom
  | eql | gt | gteq | lt | lteq
deriving DecidableEq, Repr, Inhabited

inductive Connective where
  | and | or | not
deriving DecidableEq, Repr, Inhabited

inductive PredicateName where
  | builtin (b : Builtin)
  | connective (c : Connective)
deriving DecidableEq, Repr, Inhabited

/-- The predicates in the order in which a new registry holds them. -/
def Builtin.all : List Builtin :=
  [.type, .none, .filled, .empty, .format, .size, .minSize, .maxSize, .includedIn, .excludedFrom,
    .eql, .gt, .gteq, .lt, .lteq]

/-- The text that rules use for a predicate. -/
def Builtin.text : Builtin → String
  | .type => "type?"
  | .none => "none?"
  | .filled => "filled?"
  | .empty => "empty?"
  | .format => "format?"
  | .size => "size?"
  | .minSize => "min_size?"
  | .maxSize => "max_size?"
  | .includedIn => "included_in?"
  | .excludedFrom => "excluded_from?"
  | .eql => "eql?"
  | .gt => "gt?"
  | .gteq => "gteq?"
  | .lt => "lt?"
  | .lteq => "lteq?"

def Builtin.symbol : Builtin → String
  | .type => "TYPE"
  | .none => "NONE"
  | .filled => "FILLED"
  | .empty => "EMPTY"
  | .format => "FORMAT"
  | .size => "SIZE"
  | .minSize => "MIN_SIZE"
  | .maxSize => "MAX_SIZE"
  | .includedIn => "INCLUDED_IN"
  | .excludedFrom => "EXCLUDED_FROM"
  | .eql => "EQL"
  | .gt => "GT"
  | .gteq => "GTEQ"
  | .lt => "LT"
  | .lteq => "LTEQ"

/-- The word by which a predicate is shown. -/
def Builtin.title : Builtin → String
  | .type => "TypePredicate"
  | .none => "NonePredicate"
  | .filled => "FilledPredicate"
  | .empty => "EmptyPredicate"
  | .format => "FormatPredicate"
  | .size => "SizePredicate"
  | .minSize => "MinSizePredicate"
  | .maxSize => "MaxSizePredicate"
  | .includedIn => "IncludedInPredicate"
  | .excludedFrom => "ExcludedFromPredicate"
  | .eql => "EqlPredicate"
  | .gt => "GtPredicate"
  | .gteq => "GteqPredicate"
  | .lt => "LtPredicate"
  | .lteq => "LteqPredicate"

def Builtin.arity : Builtin → Nat
  | .none | .filled | .empty => 0
  | _ => 1

def Connective.text : Connective → String
  | .and => "and"
  | .or => "or"
  | .not => "not"

def Connective.symbol : Connective → String
  | .and => "AND"
  | .or => "OR"
  | .not => "NOT"

def Connective.ofText? : String → Option Connective
  | "and" => some .and
  | "or" => some .or
  | "not" => some .not
  | _ => none

/-- A connective is found by its word. -/
@[simp] theorem Connective.ofText?_text (c : Connective) : ofText? c.text = some c := by
  cases c <;> rfl

/-- No other word stands for a connective. -/
theorem Connective.text_eq_of_ofText? {s : String} {c : Connective}
    (found : ofText? s = some c) : s = c.text := by
  unfold ofText? at found
  split at found <;> cases found <;> rfl

namespace PredicateName

def text : PredicateName → String
  | .builtin b => b.text
  | .connective c => c.text

def symbol : PredicateName → String
  | .builtin b => b.symbol
  | .connective c => c.symbol

def all : List PredicateName :=
  Builtin.all.map .builtin ++ [.connective .and, .connective .or, .connective .not]

def ofText? (s : String) : Option PredicateName :=
  all.find? fun n => n.text == s

/-- A name as `PredicateName.SYMBOL`. -/
def title (n : PredicateName) : String :=
  "PredicateName." ++ n.symbol

/-- No name is left out of the list of all names. -/
theorem mem_all (n : PredicateName) : n ∈ all := by
  cases n with
  | builtin b => cases b <;> decide
  | connective c => cases c <;> decide

/-- A name is found by its text. -/
@[simp] theorem ofText?_text (n : PredicateName) : ofText? n.text = some n := by
  cases n with
  | builtin b => cases b <;> decide
  | connective c => cases c <;> decide

/-- No two names have the same text. -/
theorem eq_of_text_eq {m n : PredicateName} (h : m.text = n.text) : m = n := by
  have found := congrArg ofText? h
  simpa using found

end PredicateName

/-- Plain text, or a name that stands for its text. -/
inductive Label where
  | plain (s : String)
  | name (n : PredicateName)
deriving DecidableEq, Repr, Inhabited

namespace Label

/-- The text that a label is compared, searched and split by. -/
def text : Label → String
  | .plain s => s
  | .name n => n.text

/-- The text that a label contributes to a message. -/
def shown : Label → String
  | .plain s => s
  | .name n => n.title

end Label

end RecordRules
