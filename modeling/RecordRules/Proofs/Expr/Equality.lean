import RecordRules.Proofs.Expr.Shape
import RecordRules.Value.Equality

/-!
Expressions, rules and rule sets compared with themselves.

Equality goes down to the parameters of the leaves. Where each of these is the same as itself, so
that comparing it with itself does not fault, the whole is equal to itself.
-/

namespace RecordRules

/-- A value is the same as itself, as collections look for their items. -/
def Value.IsSame (v : Value) : Prop := v.same v = .ok true

namespace Expr

theorem leavesOf_eq_flatMap (es : List Expr) : leavesOf es = es.flatMap leaves := by
  induction es with
  | nil => rfl
  | cons e es ih => rw [leavesOf, ih, List.flatMap_cons]

/-- The parameters of all leaves of an expression are the same as themselves. -/
def HasSameParams (e : Expr) : Prop :=
  ∀ leaf ∈ e.leaves, ∀ v ∈ leaf.2, v.IsSame

theorem HasSameParams.operand {es : List Expr} {e : Expr} (mem : e ∈ es)
    (same : ∀ leaf ∈ leavesOf es, ∀ v ∈ leaf.2, v.IsSame) : e.HasSameParams := by
  intro leaf inLeaf
  rw [leavesOf_eq_flatMap] at same
  exact same leaf (List.mem_flatMap.mpr ⟨e, mem, inLeaf⟩)

theorem equalItems_self {vs : List Value} (same : ∀ v ∈ vs, v.IsSame) :
    equalItems vs vs = .ok true := by
  induction vs with
  | nil => rfl
  | cons v vs ih =>
      rw [List.forall_mem_cons] at same
      have head : sameOr v v v.equal = .ok true := same.1
      rw [equalItems, head]
      exact ih same.2

theorem equalOperands_self {es : List Expr} (each : ∀ e ∈ es, e.equal e = .ok true) :
    equalOperands es es = .ok true := by
  induction es with
  | nil => rfl
  | cons e es ih =>
      rw [List.forall_mem_cons] at each
      rw [equalOperands, each.1]
      exact ih each.2

theorem equal_self {e : Expr} (same : e.HasSameParams) : e.equal e = .ok true := by
  induction e using Expr.induction with
  | bound p params =>
      rw [equal, if_pos rfl]
      exact equalItems_self (same (p, params) List.mem_cons_self)
  | all es ih | any es ih =>
      rw [equal]
      exact equalOperands_self fun e mem => ih e mem (.operand mem same)
  | negation e ih =>
      rw [equal]
      exact ih same

end Expr

/-- A rule set is equal to itself when the parameters of its leaves are the same as themselves. -/
theorem RuleSet.equal_self {rs : RuleSet} (same : ∀ r ∈ rs.rules, r.expr.HasSameParams) :
    rs.equal rs = .ok true := by
  obtain ⟨rules⟩ := rs
  unfold RuleSet.equal
  induction rules with
  | nil => rfl
  | cons r rules ih =>
      obtain ⟨path, e⟩ := r
      obtain ⟨first, others⟩ := List.forall_mem_cons.mp same
      have head : (Rule.mk path e).equal ⟨path, e⟩ = .ok true := by
        rw [Rule.equal, if_pos rfl]
        exact Expr.equal_self first
      rw [equalRules, head]
      exact ih others

end RecordRules
