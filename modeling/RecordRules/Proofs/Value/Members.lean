import RecordRules.Proofs.Value.Membership

/-!
Sets that are built from items.

A set is built from a list by taking in one item after another, unless a member has a key like that
of the item. If the items are comparable and have keys, then the members stand for them: each member
is one of the items, each item has a key like that of a member, and no two members have like keys
(`Represents`). One item more preserves this (`Represents.insert`), so it holds of every set that is
built from such a list (`membersOf_represents`), and the set is comparable itself.
-/

namespace RecordRules

variable {h : Heap} {items members xs : List Value} {v : Value}

/-- Some members stand for some items. -/
structure Represents (items members : List Value) : Prop where
  among : ∀ m ∈ members, m ∈ items
  found : ∀ x ∈ items, ∃ m ∈ members, LikeKeys x m
  apart : members.Pairwise fun m n => ¬ LikeKeys m n

namespace Represents

theorem nil : Represents [] [] where
  among := List.forall_mem_nil _
  found := List.forall_mem_nil _
  apart := .nil

theorem isComparable (represents : Represents items members)
    (comparable : ∀ x ∈ items, x.IsComparable h) : ∀ m ∈ members, m.IsComparable h :=
  fun m mem => comparable m (represents.among m mem)

/-- With one item more, the members still stand for the items. -/
theorem insert (represents : Represents items members) (comparable : ∀ x ∈ items, x.IsComparable h)
    (new : v.IsComparable h) (keyed : ∃ k, v.hashKey = .ok k) :
    ∃ next, insertMember members v = .ok next ∧ Represents (items ++ [v]) next := by
  obtain ⟨k, key⟩ := keyed
  obtain ⟨known, search, found⟩ :
      Decides (anyHolds v.meets members) (∃ m ∈ members, LikeKeys v m) :=
    Value.anyHolds_decides fun m mem =>
      Value.keyTest_decides new.compares (represents.isComparable comparable m mem)
  cases known with
  | true =>
      have step : insertMember members v = .ok members :=
        insertMember_ok_iff.mpr ⟨k, true, key, search, rfl⟩
      refine ⟨members, step, fun m mem => ?_, ?_, represents.apart⟩
      · exact List.mem_append_left _ (represents.among m mem)
      · exact List.forall_mem_append.mpr
          ⟨represents.found, List.forall_mem_singleton.mpr (found.mp rfl)⟩
  | false =>
      have step : insertMember members v = .ok (members ++ [v]) :=
        insertMember_ok_iff.mpr ⟨k, false, key, search, rfl⟩
      have itself : LikeKeys v v := ⟨new.self.2 k key, new.self.1⟩
      refine ⟨members ++ [v], step, ?_, ?_, ?_⟩
      · refine List.forall_mem_append.mpr ⟨fun m mem => ?_, List.forall_mem_singleton.mpr ?_⟩
        · exact List.mem_append_left _ (represents.among m mem)
        · exact List.mem_append_right _ List.mem_cons_self
      · refine List.forall_mem_append.mpr ⟨fun x mem => ?_, List.forall_mem_singleton.mpr ?_⟩
        · obtain ⟨m, mem, like⟩ := represents.found x mem
          exact ⟨m, List.mem_append_left _ mem, like⟩
        · exact ⟨v, List.mem_append_right _ List.mem_cons_self, itself⟩
      · refine List.pairwise_append.mpr ⟨represents.apart, List.pairwise_singleton _ _, ?_⟩
        intro m mem n here like
        cases List.mem_singleton.mp here
        exact Bool.false_ne_true (found.mpr ⟨m, mem, like.symm⟩)

/-- With more items, one after another, the members still stand for the items. -/
theorem foldlM (represents : Represents items members) (comparable : ∀ x ∈ items, x.IsComparable h)
    (new : ∀ x ∈ xs, x.IsComparable h) (keyed : ∀ x ∈ xs, ∃ k, x.hashKey = .ok k) :
    ∃ next, xs.foldlM insertMember members = .ok next ∧ Represents (items ++ xs) next := by
  induction xs generalizing items members with
  | nil =>
      rw [List.append_nil]
      exact ⟨members, rfl, represents⟩
  | cons x xs ih =>
      obtain ⟨first, others⟩ := List.forall_mem_cons.mp new
      obtain ⟨key, otherKeys⟩ := List.forall_mem_cons.mp keyed
      obtain ⟨next, step, represents⟩ := represents.insert comparable first key
      rw [List.foldlM_cons, step, List.append_cons]
      refine ih represents ?_ others otherKeys
      exact List.forall_mem_append.mpr ⟨comparable, List.forall_mem_singleton.mpr first⟩

end Represents

end RecordRules
