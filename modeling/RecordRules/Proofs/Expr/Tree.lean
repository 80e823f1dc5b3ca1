import RecordRules.Proofs.Expr.Shape
import RecordRules.Value.Equality

/-!
Expressions as trees.

Two predicates of one name are two objects, but expressions are compared and written by the names of
their predicates. `Expr.untagged` leaves out what tells such objects apart: two expressions without
tags are the same when the same predicates with the same parameters stand in the same places of one
tree. Neither equality nor the text of an expression depends on tags (`equal_untagged`,
`literal_untagged`).
-/

namespace RecordRules

/-- A predicate without the tag that tells it from others with its name. -/
def Predicate.untagged : Predicate → Predicate
  | .builtin _ b => .builtin 0 b
  | .custom _ name f arity => .custom 0 name f arity

theorem Predicate.key_untagged (p : Predicate) : p.untagged.key = p.key := by
  cases p with
  | builtin tag b => rfl
  | custom tag name f arity => cases name <;> rfl

namespace Expr

mutual

/-- An expression without the tags of its predicates: the tree that it is. -/
def untagged : Expr → Expr
  | .bound p params => .bound p.untagged params
  | .all es => .all (untaggedAll es)
  | .any es => .any (untaggedAll es)
  | .negation e => .negation e.untagged
termination_by structural e => e

def untaggedAll : List Expr → List Expr
  | [] => []
  | e :: es => e.untagged :: untaggedAll es
termination_by structural es => es

end

theorem equalOperands_untagged {es : List Expr}
    (each : ∀ e ∈ es, ∀ f : Expr, e.untagged.equal f = e.equal f) (fs : List Expr) :
    equalOperands (untaggedAll es) fs = equalOperands es fs := by
  induction es generalizing fs with
  | nil => rfl
  | cons e es ih =>
      obtain ⟨first, others⟩ := List.forall_mem_cons.mp each
      cases fs with
      | nil => rfl
      | cons f fs => rw [untaggedAll, equalOperands, equalOperands, first, ih others]

/-- Tags are not compared. -/
theorem equal_untagged (e f : Expr) : e.untagged.equal f = e.equal f := by
  induction e using Expr.induction generalizing f with
  | bound p params =>
      cases f with
      | bound q params' => rw [untagged, equal, equal, p.key_untagged]
      | all | any | negation => rfl
  | all es ih =>
      cases f with
      | all fs => exact equalOperands_untagged ih fs
      | bound | any | negation => rfl
  | any es ih =>
      cases f with
      | any fs => exact equalOperands_untagged ih fs
      | bound | all | negation => rfl
  | negation e ih =>
      cases f with
      | negation f => exact ih f
      | bound | all | any => rfl

theorem bracket_untagged (e : Expr) (text : String) : e.untagged.bracket text = e.bracket text := by
  cases e <;> rfl

theorem operandLiterals_untagged {es : List Expr}
    (each : ∀ e ∈ es, e.untagged.literal = e.literal) :
    operandLiterals (untaggedAll es) = operandLiterals es := by
  induction es with
  | nil => rfl
  | cons e es ih =>
      obtain ⟨first, others⟩ := List.forall_mem_cons.mp each
      rw [untaggedAll, operandLiterals, operandLiterals, bracket_untagged, first, ih others]

/-- Tags are not written. -/
theorem literal_untagged (e : Expr) : e.untagged.literal = e.literal := by
  induction e using Expr.induction with
  | bound p params => rw [untagged, literal, literal, p.key_untagged]
  | all es ih => rw [untagged, literal, literal, operandLiterals_untagged ih]
  | any es ih => rw [untagged, literal, literal, operandLiterals_untagged ih]
  | negation e ih => rw [untagged, literal, literal, bracket_untagged, ih]

end Expr

end RecordRules
