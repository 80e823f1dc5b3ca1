import RecordRules.Registry
import RecordRules.Rule

/-!
Building a rule set rule by rule.

Each step adds rules or fails and adds nothing. Names are resolved when a rule is added, so unknown
names and parameters that a predicate does not accept are faults of the step and not of a later
evaluation.

How parameters are checked is a parameter here, as it is for expressions: `predicateBy` and
`validatesBy` take the checks as given, `predicate` and `validates` those of the predicates
themselves.
-/

namespace RecordRules

/-- The rules added so far, and the registry that names are resolved by. -/
structure Builder where
  registry : Registry
  rules : List Rule

namespace Builder

def new (reg : Registry) : Builder := ⟨reg, []⟩

/-- The expression of the predicate with a name and some parameters, when parameters are checked in
the given way. -/
def predicateBy (checks : Checks) (b : Builder) (name : Value) (params : List Value) :
    Except Fault Expr := do
  Expr.bindBy checks (← b.registry.resolve name.nameKey) params

def predicate (b : Builder) (name : Value) (params : List Value) : Except Fault Expr :=
  b.predicateBy Predicate.check name params

def rule (b : Builder) (path expr : Value) : Except Fault Builder := do
  let r ← Rule.make path expr
  return { b with rules := b.rules ++ [r] }

/-- Adds a rule for a path and a single predicate, when parameters are checked in the given way. -/
def validatesBy (checks : Checks) (b : Builder) (path name : Value) (params : List Value) :
    Except Fault Builder := do
  b.rule path (.expr (← b.predicateBy checks name params))

def validates (b : Builder) (path name : Value) (params : List Value) : Except Fault Builder :=
  b.validatesBy Predicate.check path name params

def extend (b : Builder) (rs : RuleSet) : Builder :=
  { b with rules := b.rules ++ rs.rules }

def reset (b : Builder) : Builder := { b with rules := [] }

def build (b : Builder) : RuleSet := ⟨b.rules⟩

end Builder

end RecordRules
