import RecordRules.Predicate.Test
import RecordRules.Proofs.Expr.Shape

/-!
The predicates of the library, and their answers about missing values.

Asked about a value, a predicate lets it pass, lets it fail, or faults. A value is missing when it is
absent or explicitly nothing, and no predicate of the library tells the two apart: `test_missing`
gives the one answer for both.
-/

namespace RecordRules

def Value.Passes (v : Value) (b : Builtin) (params : List Value) : Prop :=
  b.test v params = .ok true

def Value.Fails (v : Value) (b : Builtin) (params : List Value) : Prop :=
  b.test v params = .ok false

theorem Value.isMissing_iff {v : Value} : v.isMissing = true ↔ v = .none ∨ v = .absent := by
  cases v <;> simp [isMissing]

namespace Builtin

/-- Whether a predicate accepts what is missing: `none?` and `empty?` do, and `eql?` does if it asks
for nothing. -/
def acceptsMissing (b : Builtin) (params : List Value) : Bool :=
  match b, params with
  | .none, _ | .empty, _ | .eql, [.none] => true
  | _, _ => false

theorem acceptsMissing_iff {b : Builtin} {params : List Value} :
    b.acceptsMissing params = true ↔ b = .none ∨ b = .empty ∨ (b = .eql ∧ params = [.none]) := by
  unfold acceptsMissing
  split <;> simp_all

/-- A test with as many parameters as the predicate takes answers about a missing value, and its
answer depends on the predicate and its parameters alone. -/
theorem test_missing {b : Builtin} {params : List Value} (count : params.length = b.arity)
    {v : Value} (missing : v.isMissing = true) :
    b.test v params = .ok (b.acceptsMissing params) := by
  rcases Value.isMissing_iff.mp missing with rfl | rfl
  all_goals
    cases b with
    | none | filled | empty => rfl
    | eql =>
        obtain ⟨param, rfl⟩ := List.length_eq_one_iff.mp count
        cases param <;> rfl
    | _ =>
        obtain ⟨param, rfl⟩ := List.length_eq_one_iff.mp count
        rfl

end Builtin

/-! ### Leaves of the library -/

/-- A leaf of the library: one of its predicates, with as many parameters as it takes and none that
it refuses. -/
inductive Leaf.OfLibrary : Leaf → Prop where
  | intro {b : Builtin} {params : List Value} (tag : Nat) (count : params.length = b.arity)
      (check : b.check params = .ok ()) : OfLibrary (.builtin tag b, params)

/-- All leaves of a rule set are of the library. -/
def RuleSet.OfLibrary (rs : RuleSet) : Prop :=
  ∀ r ∈ rs.rules, ∀ leaf ∈ r.expr.leaves, leaf.OfLibrary

/-- A leaf of the library answers alike about everything that is missing. -/
theorem Leaf.OfLibrary.test_missing {leaf : Leaf} (library : leaf.OfLibrary) {v w : Value}
    (v_missing : v.isMissing = true) (w_missing : w.isMissing = true) :
    leaf.1.test v leaf.2 = leaf.1.test w leaf.2 := by
  obtain ⟨tag, count, -⟩ := library
  exact (Builtin.test_missing count v_missing).trans (Builtin.test_missing count w_missing).symm

end RecordRules
