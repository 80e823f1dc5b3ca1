import RecordRules.Registry

/-!
The shape of expressions.

An expression is a tree whose leaves are predicates with their parameters. `Expr.induction` follows
the tree: whatever holds of the leaves and passes from operands to their combinations holds of every
expression. `Expr.leaves` lists the leaves from the left, `RuleSet.leaves` those of all rules.
-/

namespace RecordRules

/-- A predicate with its parameters, as it stands at the end of a branch. -/
abbrev Leaf := Predicate × List Value

namespace Expr

/-- What holds of the leaves and passes from operands to combinations holds of every expression. -/
@[elab_as_elim]
theorem induction {motive : Expr → Prop} (bound : ∀ p params, motive (.bound p params))
    (all : ∀ es : List Expr, (∀ e ∈ es, motive e) → motive (.all es))
    (any : ∀ es : List Expr, (∀ e ∈ es, motive e) → motive (.any es))
    (negation : ∀ e, motive e → motive (.negation e)) : ∀ e, motive e
  | .bound p params => bound p params
  | .all es => all es fun e _ => induction bound all any negation e
  | .any es => any es fun e _ => induction bound all any negation e
  | .negation e => negation e (induction bound all any negation e)

mutual

/-- The leaves of an expression, from the left. -/
def leaves : Expr → List Leaf
  | .bound p params => [(p, params)]
  | .all es | .any es => leavesOf es
  | .negation e => e.leaves
termination_by structural e => e

def leavesOf : List Expr → List Leaf
  | [] => []
  | e :: es => e.leaves ++ leavesOf es
termination_by structural es => es

end

end Expr

def RuleSet.leaves (rs : RuleSet) : List Leaf :=
  rs.rules.flatMap fun r => r.expr.leaves

end RecordRules
