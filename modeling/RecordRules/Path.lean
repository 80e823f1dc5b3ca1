import RecordRules.Value.Display

/-!
Paths.

A path names a place in a record by segments with a separator between them. The path of a rule is
checked when the rule is made, by dots; an evaluator checks it again by its own separator.
-/

namespace RecordRules

def hasEmptySegment (separator text : String) : Bool :=
  (Text.splitOn separator text).any String.isEmpty

/-- The fault of a path that cannot address anything. -/
def Fault.ofPath (path : Value) (reason : String) : Fault :=
  .badPath path (.ofString reason)

/-- The path that a value is: text with something other than blanks, and without an empty segment
between dots. -/
def Label.ofPath (path : Value) : Except Fault Label :=
  match path with
  | .text label =>
    if Text.isBlankText label.text then .error (.ofPath path "must not be empty")
    else if hasEmptySegment "." label.text then
      .error (.ofPath path "contains an empty segment")
    else .ok label
  | _ => .error (.ofPath path "must be a string")

/-- Refuses a path with an empty segment when paths are walked. -/
def Config.checkPath (c : Config) (path : Label) : Except Fault Unit :=
  if c.nestedPaths && hasEmptySegment c.separator path.text then
    .error (.ofPath (.text path) "contains an empty segment")
  else .ok ()

/-- The keys by which a path is walked. -/
def Config.segments (c : Config) (path : Label) : List String :=
  if c.nestedPaths then Text.splitOn c.separator path.text else [path.text]

end RecordRules
