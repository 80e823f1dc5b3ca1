import RecordRules.Value.Membership

/-!
Reports of failed rules.

An error set keeps errors together that concern the same attribute. Attributes stand in the order of
their first error, and the errors of each in the order in which they came; merging two sets gives
the set of the errors of both in a row.
-/

namespace RecordRules

def Error.toDict (e : Error) : Value :=
  .object [("attribute", .text e.path), ("rule", .text e.ruleName), ("expected", e.expected),
    ("actual", e.actual)]

namespace ErrorSet

def empty : ErrorSet := ⟨[]⟩

/-- The groups with one more error: at the end of its attribute's group, or in a new group. -/
def insertInto (e : Error) : List (Label × List Error) → List (Label × List Error)
  | [] => [(e.path, [e])]
  | (path, es) :: rest =>
    if path.text = e.path.text then (path, es ++ [e]) :: rest
    else (path, es) :: insertInto e rest

def insert (es : ErrorSet) (e : Error) : ErrorSet := ⟨insertInto e es.groups⟩

def ofList (errors : List Error) : ErrorSet := errors.foldl insert empty

/-- All errors, group after group. -/
def toList (es : ErrorSet) : List Error := es.groups.flatMap (·.2)

def attributes (es : ErrorSet) : List Label := es.groups.map (·.1)

def isEmpty (es : ErrorSet) : Bool := es.groups.isEmpty

def merge (a b : ErrorSet) : ErrorSet := ofList (a.toList ++ b.toList)

def toDict (es : ErrorSet) : Value :=
  .dict false (es.groups.map fun g => (.text g.1, .list (g.2.map Error.toDict)))

end ErrorSet

namespace Result

def success (r : Result) : Bool := r.errors.isEmpty

def merge (a b : Result) : Result := ⟨a.errors.merge b.errors⟩

def toDict (r : Result) : Value :=
  .object [("success", .bool r.success), ("errors", r.errors.toDict)]

end Result

end RecordRules
