import RecordRules.Expr
import RecordRules.Path

/-!
Rules and rule sets.

A rule applies an expression to the value at a path. A rule set keeps its rules in the order in
which they were declared, and written as a dictionary it is a rule document.
-/

namespace RecordRules

namespace Rule

def make (path expr : Value) : Except Fault Rule := do
  let label ← Label.ofPath path
  match expr with
  | .expr e => return ⟨label, e⟩
  | _ => throw (.definition (.notExpression label expr))

/-- The expression to blame for a value, or nothing if the value satisfies the rule, when predicates
have the given outcomes. -/
def failureBy (outcomes : Outcomes) (r : Rule) (v : Value) : Run (Option Expr) :=
  r.expr.failureBy outcomes r.path v

/-- The expression to blame for a value, or nothing if the value satisfies the rule. -/
def failure (r : Rule) (v : Value) : Run (Option Expr) :=
  r.failureBy Predicate.test v

def toDict (r : Rule) : Value :=
  .dict false ((.ofString "attribute", .text r.path) ::
    r.expr.entries.map fun (k, v) => (.ofString k, v))

end Rule

namespace RuleSet

def empty : RuleSet := ⟨[]⟩

def rulesOf : List Value → Except Fault (List Rule)
  | [] => .ok []
  | .rule r :: rest => (rulesOf rest).map (r :: ·)
  | v :: _ => .error (.definition (.notRule v))

def make (items : List Value) : Except Fault RuleSet :=
  (rulesOf items).map RuleSet.mk

theorem rulesOf_map_rule (rs : List Rule) : rulesOf (rs.map .rule) = .ok rs := by
  induction rs with
  | nil => rfl
  | cons r rs ih => rw [List.map_cons, rulesOf, ih]; rfl

/-- Rules make the rule set of them. -/
@[simp] theorem make_map_rule (rs : List Rule) : make (rs.map .rule) = .ok ⟨rs⟩ := by
  rw [make, rulesOf_map_rule]
  rfl

/-- The labels without those whose text has been seen before. -/
def distinct (seen : List String) : List Label → List Label
  | [] => []
  | l :: ls => if seen.contains l.text then distinct seen ls else l :: distinct (l.text :: seen) ls

/-- The paths of the rules, each at its first place. -/
def paths (rs : RuleSet) : List Label :=
  distinct [] (rs.rules.map (·.path))

def forPath (rs : RuleSet) (path : String) : List Rule :=
  rs.rules.filter fun r => r.path.text == path

def append (a b : RuleSet) : RuleSet := ⟨a.rules ++ b.rules⟩

def toDict (rs : RuleSet) : Value :=
  .object [("rules", .list (rs.rules.map Rule.toDict))]

end RuleSet

end RecordRules
