import RecordRules.Proofs.Evaluation.Pass
import RecordRules.Proofs.Predicate.Interchange

/-!
Equal rule sets in evaluations.

Two rule sets that are equal come to equal results for a record, or to faults of one class about one
attribute, if their leaves answer alike about what the rules lead to.
-/

namespace RecordRules

/-! ### The same outcome -/

/-- The attribute that a fault is about. -/
def Fault.attribute? : Fault → Option String
  | .evaluation path _ _ | .resolution path _ _ | .badPath path _ => path.text?
  | _ => none

/-- Two computations come to related answers, or to faults of one class about one attribute. -/
inductive SameOutcome {α : Type} (R : α → α → Prop) : Except Fault α → Except Fault α → Prop
  | ok {a b : α} (same : R a b) : SameOutcome R (.ok a) (.ok b)
  | error {f g : Fault} (className : f.className = g.className)
      (about : f.attribute? = g.attribute?) : SameOutcome R (.error f) (.error g)

namespace SameOutcome

variable {α β : Type} {R : α → α → Prop} {S : β → β → Prop} {x y : Except Fault α}

theorem bind {f g : α → Except Fault β} (first : SameOutcome R x y)
    (next : ∀ a b, R a b → SameOutcome S (f a) (g b)) : SameOutcome S (x >>= f) (y >>= g) := by
  cases first with
  | ok same => exact next _ _ same
  | error className about => exact .error className about

end SameOutcome

namespace Expr

variable {e f : Expr} {es fs : List Expr} {outcomes : Outcomes} {path path' : Label} {v : Value}

end Expr

/-! ### Reports -/

/-- Groups of equal errors about the same attributes. -/
abbrev SameGroups : List (Label × List Error) → List (Label × List Error) → Prop :=
  List.Forall₂ fun g g' =>
    g.1.text = g'.1.text ∧ List.Forall₂ (fun e f => Error.equal e f = .ok true) g.2 g'.2

section Reports

variable {e f : Error} {gs hs : List (Label × List Error)} {es fs : List Error}

theorem equalGroups_of_same (groups : SameGroups gs hs) : equalGroups gs hs = .ok true := by
  induction groups with
  | nil => rfl
  | @cons g h gs hs head tail ih =>
      obtain ⟨path, es⟩ := g
      obtain ⟨path', fs⟩ := h
      have errors : equalErrors es fs = .ok true := by
        rw [equalErrors_eq, equalItems_eq_true_iff, List.forall₂_map_left_iff,
          List.forall₂_map_right_iff]
        exact head.2
      rw [equalGroups, if_pos head.1, errors]
      exact ih

end Reports

def Result.equal (a b : Result) : Except Fault Bool :=
  (Value.result a).equal (.result b)

namespace Config

section Rules

variable {outcomes : Outcomes} {c : Config} {record : Value}

end Rules

/-! ### Equal rule sets -/

/-- Corresponding leaves of two rules have the same order to what the path leads to. -/
def SameOrder (c : Config) (record : Value) (r s : Rule) : Prop :=
  ∀ v, c.resolve record r.path = .ok v →
    List.Forall₂ (Leaf.SameOrder v) r.expr.leaves s.expr.leaves

section Equal

variable {h : Heap} {c : Config} {record : Value} {rs ss : RuleSet}

end Equal

end Config

end RecordRules
