import RecordRules.Expr
import RecordRules.Proofs.Value.Form

/-!
Values that a list rules out.

Whether a list or a tuple holds a value is asked of its items one by one, up to the first that does
not answer no. An item that is identical or equal to the value answers yes, and an item can refuse
to be compared, which is a fault. For collections that find values by their keys, a fault of types
means that they cannot hold the value, and this meaning is given to faults of types everywhere: also
where an item of a list refuses a comparison by one. Then the items behind it are not asked, and the
value passes as not listed though it may be.

`Expr.excluding_unlisted` says exactly when a value is not ruled out: either every item has answered
no, or the first item that has not answered no has refused by a fault of types. Any other fault is
let through. So where no comparison with the value faults by its types, whatever is not ruled out is
neither identical nor equal to any of the items.
-/

namespace RecordRules

namespace Value

/-- What is not the same is neither identical nor equal. -/
theorem same_eq_no_iff {v w : Value} :
    v.same w = .ok false ↔ v.identical w = false ∧ v.equal w = .ok false := by
  unfold same sameOr
  by_cases identical : v.identical w = true
  · rw [if_pos identical, identical]
    exact iff_of_false nofun nofun
  · rw [if_neg identical, and_iff_right (Bool.eq_false_iff.mpr identical)]

/-- Among some items asked for a value one by one, the first that does not answer no comes to this
outcome. -/
def Meets (v : Value) (items : List Value) (outcome : Except Fault Bool) : Prop :=
  ∃ before item after, items = before ++ item :: after ∧
    (∀ unlike ∈ before, unlike.same v = .ok false) ∧ item.same v = outcome

theorem meets_iff {v : Value} {items : List Value} {outcome : Except Fault Bool}
    (stop : outcome ≠ .ok false) :
    v.Meets items outcome ↔ anyHolds (fun item => item.same v) items = outcome :=
  (anyHolds_eq_iff stop).symm

end Value

namespace Expr

/-- The expression that rules out what a collection holds. -/
def excluding (tag : Nat) (collection : Value) : Expr :=
  .bound (.builtin tag .excludedFrom) [collection]

section Excluding

variable {tag : Nat} {path : Label} {items : List Value} {v collection : Value}

/-- What the items say decides, and a fault of types among them counts as a no. -/
theorem failure_excluding (present : v.isMissing = false)
    (sequence : collection = .list items ∨ collection = .tuple items) :
    ((excluding tag collection).failure path v).answer =
      match anyHolds (fun item => item.same v) items with
      | .ok listed => .ok (if listed then some (excluding tag collection) else none)
      | .error f =>
        if f.isKind .type then .ok none
        else .error (blameFault path (.builtin tag .excludedFrom) f) := by
  have asked : collection.contains v = anyHolds (fun item => item.same v) items := by
    rcases sequence with rfl | rfl
    · rfl
    · rfl
  have test : Builtin.excludedFrom.test v [collection] =
      (noOnTypeFault (anyHolds (fun item => item.same v) items)).map (!·) := by
    rw [Builtin.test, present, ← asked]
    rfl
  have outcome : (ask Predicate.test path v (.builtin tag .excludedFrom) [collection]).answer =
      match Builtin.excludedFrom.test v [collection] with
      | .ok b => .ok b
      | .error f => .error (blameFault path (.builtin tag .excludedFrom) f) := rfl
  rw [failure, excluding, failureBy, Run.answer_bind, outcome, test]
  rcases anyHolds (fun item => item.same v) items with f | _ | _
  · dsimp only
    by_cases type : f.isKind .type = true
    · rw [noOnTypeFault, if_pos type, if_pos type]
      rfl
    · rw [noOnTypeFault, if_neg type, if_neg type]
      rfl
  · rfl
  · rfl

/-- **A list rules out what it holds, unless a comparison faults by its types.** A value that is
present is not ruled out by a list or a tuple exactly if every item answers that it is not the
value, or if the first item that answers otherwise faults by its types. It is ruled out exactly if
the first item that answers otherwise is the value, and there is a fault exactly if this item faults
in another way. So if no comparison with an item faults by its types, then a value that is not ruled
out is neither identical nor equal to any of the items. -/
theorem excluding_unlisted (present : v.isMissing = false)
    (sequence : collection = .list items ∨ collection = .tuple items) (tag : Nat) (path : Label) :
    let e := excluding tag collection
    ((e.failure path v).answer = .ok none ↔ (∀ item ∈ items, item.same v = .ok false) ∨
      ∃ f, f.isKind .type = true ∧ v.Meets items (.error f)) ∧
    ((e.failure path v).answer = .ok (some e) ↔ v.Meets items (.ok true)) ∧
    (∀ g, (e.failure path v).answer = .error g ↔ ∃ f, f.isKind .type = false ∧
      v.Meets items (.error f) ∧ blameFault path (.builtin tag .excludedFrom) f = g) ∧
    ((∀ item ∈ items, ∀ f, item.same v = .error f → f.isKind .type = false) →
      (e.failure path v).answer = .ok none →
        ∀ item ∈ items, item.identical v = false ∧ item.equal v = .ok false) := by
  intro e
  have answer : (e.failure path v).answer = _ := failure_excluding present sequence
  have unlisted : (∀ item ∈ items, item.same v = .ok false) ↔
      anyHolds (fun item => item.same v) items = .ok false := anyHolds_eq_no_iff.symm
  have listed : v.Meets items (.ok true) ↔
      anyHolds (fun item => item.same v) items = .ok true := Value.meets_iff nofun
  have refused (f : Fault) : v.Meets items (.error f) ↔
      anyHolds (fun item => item.same v) items = .error f := Value.meets_iff nofun
  have passes : (e.failure path v).answer = .ok none ↔ (∀ item ∈ items, item.same v = .ok false) ∨
      ∃ f, f.isKind .type = true ∧ v.Meets items (.error f) := by
    rw [answer, unlisted]
    simp only [refused]
    rcases anyHolds (fun item => item.same v) items with f | _ | _
    · simp
    · simp
    · simp
  refine ⟨passes, ?_, fun g => ?_, fun typed unblamed item mem => ?_⟩
  · rw [answer, listed]
    rcases anyHolds (fun item => item.same v) items with f | _ | _
    · dsimp only
      split
      · exact iff_of_false nofun nofun
      · exact iff_of_false nofun nofun
    · exact iff_of_false nofun nofun
    · exact iff_of_true rfl rfl
  · rw [answer]
    simp only [refused]
    rcases anyHolds (fun item => item.same v) items with f | _ | _
    · cases type : f.isKind .type <;> simp [type]
    · simp
    · simp
  · apply Value.same_eq_no_iff.mp
    rcases passes.mp unblamed with no | ⟨f, type, before, refusing, after, split, -, fault⟩
    · exact no item mem
    · have inItems : refusing ∈ items := split ▸ List.mem_append_right _ List.mem_cons_self
      cases (typed refusing inItems f fault).symm.trans type

end Excluding

/-- A record that refuses every comparison by a fault of some kind. -/
def refusing (kind : FaultKind) : Value := .record
  { tag := 0
    label := "refusing"
    attributes := []
    slots := []
    properties := []
    failing := []
    hook := none
    length := none
    comparison := some (.ofMessage kind "no comparison") }

/-- A refused comparison that is no fault of types is a fault of the whole expression, also where
the value is listed behind it. A guest who is compared with every name of a list is not among them.
-/
theorem excluding_unlisted_refusing :
    let beforeOne := excluding 0 (.list [refusing .value, .int 1])
    let names := excluding 1 (.tuple [.ofString "root", .ofString "admin"])
    (Value.int 1).isMissing = false ∧ (Value.ofString "guest").isMissing = false ∧
      (beforeOne.failure (.plain "id") (.int 1)).answer =
        .error (blameFault (.plain "id") (.builtin 0 .excludedFrom)
          (.ofMessage .value "no comparison")) ∧
      (names.failure (.plain "name") (.ofString "guest")).answer = .ok none ∧
      (Value.ofString "root").equal (.ofString "guest") = .ok false := by
  intro beforeOne names
  obtain ⟨-, -, faults, -⟩ :=
    @excluding_unlisted [refusing .value, .int 1] (.int 1) _ rfl (.inl rfl) 0 (.plain "id")
  obtain ⟨passes, -, -, unlisted⟩ := @excluding_unlisted [.ofString "root", .ofString "admin"]
    (.ofString "guest") _ rfl (.inr rfl) 1 (.plain "name")
  have each : ∀ name ∈ [Value.ofString "root", .ofString "admin"],
      name.same (.ofString "guest") = .ok false :=
    List.forall_mem_cons.mpr ⟨rfl, List.forall_mem_singleton.mpr rfl⟩
  have passed := passes.mpr (.inl each)
  have typed : ∀ name ∈ [Value.ofString "root", .ofString "admin"], ∀ f,
      name.same (.ofString "guest") = .error f → f.isKind .type = false :=
    fun name mem f fault => nomatch (each name mem).symm.trans fault
  refine ⟨rfl, rfl, (faults _).mpr ⟨_, rfl, ?_, rfl⟩, passed, ?_⟩
  · exact ⟨[], refusing .value, [.int 1], rfl, List.forall_mem_nil _, rfl⟩
  · exact (unlisted typed passed _ List.mem_cons_self).2

/-- A list need not rule out what it holds: one is listed behind a record that refuses every
comparison by a fault of types, and is not ruled out. -/
theorem not_excluding_listed : ¬ ∀ (items : List Value) (v : Value) (tag : Nat) (path : Label),
    v.isMissing = false → ((excluding tag (.list items)).failure path v).answer = .ok none →
      ∀ item ∈ items, item.identical v = false ∧ item.equal v ≠ .ok true := by
  intro excludes
  have unblamed : ((excluding 0 (.list [refusing .type, .int 1])).failure (.plain "id")
      (.int 1)).answer = .ok none := rfl
  have last : Value.int 1 ∈ [refusing .type, .int 1] := List.mem_cons_of_mem _ List.mem_cons_self
  have one : (Value.int 1).equal (.int 1) = .ok true := rfl
  exact (excludes _ _ 0 _ rfl unblamed _ last).2 one

end Expr

end RecordRules
