import Mathlib.Data.List.Forall2
import Mathlib.Data.List.Perm.Subperm
import Mathlib.Tactic.Choose

/-!
Items of two lists that belong together.

Items can belong together one by one (`List.Forall₂`), or in any order. If each item of one list
belongs to an item of another that is as long, and no two of them to the same one, then each item of
the other belongs to one of the first (`exists_partner`).
-/

namespace RecordRules

section OneByOne

variable {α β : Type} {R S : α → β → Prop}

/-- Each of some items is related to one of others, if they are related one by one. -/
theorem exists_of_forall₂ {xs : List α} {ys : List β} (each : List.Forall₂ R xs ys) {x : α}
    (mem : x ∈ xs) : ∃ y ∈ ys, R x y := by
  induction each with
  | nil => cases mem
  | cons head _ ih =>
      rcases List.mem_cons.mp mem with rfl | mem
      · exact ⟨_, List.mem_cons_self, head⟩
      · obtain ⟨y, inYs, related⟩ := ih mem
        exact ⟨y, List.mem_cons_of_mem _ inYs, related⟩

/-- A relation that follows for the items of two lists. -/
theorem forall₂_imp_of_mem {xs : List α} {ys : List β} (first : List.Forall₂ R xs ys)
    (each : ∀ x ∈ xs, ∀ y ∈ ys, R x y → S x y) : List.Forall₂ S xs ys := by
  induction first with
  | nil => exact .nil
  | cons head _ ih =>
      refine .cons (each _ List.mem_cons_self _ List.mem_cons_self head) (ih ?_)
      intro x inXs y inYs
      exact each x (List.mem_cons_of_mem _ inXs) y (List.mem_cons_of_mem _ inYs)

/-- Items related to items from which a relation leads on to others. -/
theorem forall₂_comp {γ : Type} {P : β → γ → Prop} {Q : α → γ → Prop} {xs : List α} {ys : List β}
    {zs : List γ} (first : List.Forall₂ (fun x y => ∀ z, P y z → Q x z) xs ys)
    (second : List.Forall₂ P ys zs) : List.Forall₂ Q xs zs := by
  induction first generalizing zs with
  | nil =>
      cases second
      exact .nil
  | cons head _ ih =>
      cases second with
      | cons head' tail => exact .cons (head _ head') (ih tail)

theorem forall₂_append_iff {xs xs' : List α} {ys ys' : List β} (length : xs.length = ys.length) :
    List.Forall₂ R (xs ++ xs') (ys ++ ys') ↔ List.Forall₂ R xs ys ∧ List.Forall₂ R xs' ys' := by
  induction xs generalizing ys with
  | nil =>
      cases List.length_eq_zero_iff.mp length.symm
      exact (and_iff_right .nil).symm
  | cons x xs ih =>
      cases ys with
      | nil => cases length
      | cons y ys =>
          rw [List.cons_append, List.cons_append, List.forall₂_cons, List.forall₂_cons,
            ih (Nat.succ.inj length), and_assoc]

/-- Items belong together when the lists that they stand for do, if these are as long. -/
theorem forall₂_flatMap {γ δ : Type} {P Q : γ → δ → Prop} {f : α → List γ} {g : β → List δ}
    {xs : List α} {ys : List β}
    (each : List.Forall₂ (fun x y => List.Forall₂ P (f x) (g y) ∧
      (R x y ↔ List.Forall₂ Q (f x) (g y))) xs ys) :
    List.Forall₂ P (xs.flatMap f) (ys.flatMap g) ∧
      (List.Forall₂ R xs ys ↔ List.Forall₂ Q (xs.flatMap f) (ys.flatMap g)) := by
  induction each with
  | nil => exact ⟨.nil, iff_of_true .nil .nil⟩
  | cons head _ ih =>
      have length := head.1.length_eq
      rw [List.flatMap_cons, List.flatMap_cons, List.forall₂_cons, forall₂_append_iff length,
        forall₂_append_iff length, head.2, ih.2]
      exact ⟨⟨head.1, ih.1⟩, Iff.rfl⟩

end OneByOne

/-- If each item of one list has a partner in another that is no longer, and no two have the same,
then each item of the other is the partner of one. -/
theorem exists_partner {α β : Type} {R : α → β → Prop} {xs : List α} {ys : List β}
    (distinct : xs.Pairwise fun x x' => ∀ y, R x y → ¬ R x' y) (length : ys.length ≤ xs.length)
    (there : ∀ x ∈ xs, ∃ y ∈ ys, R x y) : ∀ y ∈ ys, ∃ x ∈ xs, R x y := by
  intro y inYs
  have : Nonempty β := ⟨y⟩
  choose! f mem partner using there
  have nodup : (xs.map f).Nodup := by
    refine List.pairwise_map.mpr (distinct.imp_of_mem fun {x x'} inXs inXs' apart same => ?_)
    exact apart (f x) (partner x inXs) (same ▸ partner x' inXs')
  have subset : xs.map f ⊆ ys := by
    intro z inImage
    obtain ⟨x, inXs, rfl⟩ := List.mem_map.mp inImage
    exact mem x inXs
  have perm : (xs.map f).Perm ys := by
    refine (List.Nodup.subperm nodup subset).perm_of_length_le ?_
    rw [List.length_map]
    exact length
  obtain ⟨x, inXs, rfl⟩ := List.mem_map.mp (perm.mem_iff.mpr inYs)
  exact ⟨x, inXs, partner x inXs⟩

end RecordRules
