import RecordRules.Proofs.Pairing
import RecordRules.Proofs.Value.Atoms

/-!
When keys agree.

Keys agree as the values do that they are made of, and the agreement of keys is transitive. For
values that are taken apart into items in their order, the keys agree when those of the items do
(`keysAgree_ordered`), with two exceptions: a leaf has a key also if its parameters have none, and
then their texts have to be the same, and the key of a report looks at no error.
-/

namespace RecordRules

namespace HashKey

/-- What holds of plain keys and passes from parts to keys holds of every key. -/
@[elab_as_elim]
theorem induction {motive : HashKey → Prop} (plain : ∀ v, motive (.plain v))
    (sequence : ∀ ks : List HashKey, (∀ k ∈ ks, motive k) → motive (.sequence ks))
    (members : ∀ ks : List HashKey, (∀ k ∈ ks, motive k) → motive (.members ks)) : ∀ k, motive k
  | .plain v => plain v
  | .sequence ks => sequence ks fun k _ => induction plain sequence members k
  | .members ks => members ks fun k _ => induction plain sequence members k

theorem agrees_plain_iff {v w : Value} :
    (plain v).agrees (.plain w) = true ↔ SameAtom v w := by
  rw [← same_iff_sameAtom, agrees]
  rcases sameOr v w v.equalPlain with _ | _ | _ <;> simp

theorem agrees_sequence_iff {ks ls : List HashKey} :
    (sequence ks).agrees (.sequence ls) = true ↔
      List.Forall₂ (fun k l => k.agrees l = true) ks ls := by
  rw [agrees]
  induction ks generalizing ls with
  | nil => cases ls <;> simp [agreeTests, agreeInOrder]
  | cons k ks ih =>
      cases ls with
      | nil => simp [agreeTests, agreeInOrder]
      | cons l ls =>
          rw [List.forall₂_cons, ← ih]
          simp only [agreeTests, agreeInOrder, List.length_cons, List.zip_cons_cons, List.all_cons,
            Bool.and_eq_true, beq_iff_eq, Nat.add_right_cancel_iff]
          exact and_left_comm

theorem length_agreeTests (ks : List HashKey) : (agreeTests ks).length = ks.length := by
  induction ks with
  | nil => rfl
  | cons k ks ih => rw [agreeTests, List.length_cons, List.length_cons, ih]

theorem mem_agreeTests {ks : List HashKey} {test : HashKey → Bool} :
    test ∈ agreeTests ks ↔ ∃ k ∈ ks, k.agrees = test := by
  induction ks with
  | nil => simp [agreeTests]
  | cons k ks ih => simp [agreeTests, ih, eq_comm]

theorem agrees_members_iff {ks ls : List HashKey} :
    (members ks).agrees (.members ls) = true ↔
      ks.length = ls.length ∧ ∀ k ∈ ks, ∃ l ∈ ls, k.agrees l = true := by
  simp only [agrees, agreeInAnyOrder, length_agreeTests, Bool.and_eq_true, beq_iff_eq,
    List.all_eq_true, List.any_eq_true, mem_agreeTests]
  refine and_congr_right fun _ => ?_
  constructor
  · intro each k mem
    exact each _ ⟨k, mem, rfl⟩
  · rintro each _ ⟨k, mem, rfl⟩
    exact each k mem

theorem agrees_label_iff {l m : Label} :
    l.hashKey.agrees m.hashKey = true ↔ l.text = m.text := by
  rw [Label.hashKey, Label.hashKey, agrees_plain_iff]
  constructor
  · rintro (_ | ⟨left, right⟩)
    · rfl
    · cases left
      exact (Essence.text.inj (Option.some.inj right)).symm
  · intro same
    exact .of_eq rfl (congrArg (fun s => some (Essence.text s)) same)

theorem agrees_named_iff {m n : String} {k l : HashKey} :
    (named m k).agrees (named n l) = true ↔ m = n ∧ k.agrees l = true := by
  rw [named, named, agrees_sequence_iff, List.forall₂_cons, List.forall₂_cons,
    and_iff_left List.Forall₂.nil]
  exact and_congr_left' agrees_label_iff

theorem agrees_trans {k l m : HashKey} (first : k.agrees l = true) (second : l.agrees m = true) :
    k.agrees m = true := by
  induction k using HashKey.induction generalizing l m with
  | plain v =>
      cases l with
      | plain w =>
          cases m with
          | plain u =>
              rw [agrees_plain_iff] at first second ⊢
              exact first.trans second
          | _ => cases second
      | _ => cases first
  | sequence ks ih =>
      cases l with
      | sequence ls =>
          cases m with
          | sequence ms =>
              rw [agrees_sequence_iff] at first second ⊢
              refine forall₂_comp (forall₂_imp_of_mem first fun k mem l _ kl m lm => ?_) second
              exact ih k mem kl lm
          | _ => cases second
      | _ => cases first
  | members ks ih =>
      cases l with
      | members ls =>
          cases m with
          | members ms =>
              rw [agrees_members_iff] at first second ⊢
              refine ⟨first.1.trans second.1, fun k mem => ?_⟩
              obtain ⟨l, inLs, kl⟩ := first.2 k mem
              obtain ⟨m, inMs, lm⟩ := second.2 l inLs
              exact ⟨m, inMs, ih k mem kl lm⟩
          | _ => cases second
      | _ => cases first

end HashKey

namespace Value

variable {u v w : Value} {xs ys : List Value}

theorem keysAgree_iff : v.keysAgree w = true ↔
    ∃ k l, v.hashKey = .ok k ∧ w.hashKey = .ok l ∧ k.agrees l = true := by
  unfold keysAgree
  split
  · rename_i k l left right
    constructor
    · intro agree
      exact ⟨k, l, left, right, agree⟩
    · rintro ⟨k', l', left', right', agree⟩
      cases left.symm.trans left'
      cases right.symm.trans right'
      exact agree
  · rename_i none
    refine iff_of_false nofun ?_
    rintro ⟨k, l, left, right, -⟩
    exact none k l left right

theorem keysAgree_trans (first : u.keysAgree v = true) (second : v.keysAgree w = true) :
    u.keysAgree w = true := by
  obtain ⟨k, l, left, middle, kl⟩ := keysAgree_iff.mp first
  obtain ⟨l', m, middle', right, lm⟩ := keysAgree_iff.mp second
  cases middle.symm.trans middle'
  exact keysAgree_iff.mpr ⟨k, m, left, right, HashKey.agrees_trans kl lm⟩

/-! ### Atoms -/

theorem hashKey_atom {k : HashKey} (atom : v.form = .atom) (key : v.hashKey = .ok k) :
    k = .plain v ∨ ∃ c, v = .config c := by
  cases v with
  | config c => exact .inr ⟨c, rfl⟩
  | expr e => cases e <;> cases atom
  | bytes mutable content =>
      cases mutable with
      | false => exact .inl (Except.ok.inj key).symm
      | true => cases key
  | decimal tag x =>
      rw [hashKey] at key
      split at key
      · cases key
      · exact .inl (Except.ok.inj key).symm
  | record r =>
      rw [hashKey] at key
      split at key
      · cases key
      · exact .inl (Except.ok.inj key).symm
  | _ => first | exact .inl (Except.ok.inj key).symm | cases atom

/-- Mappings have no keys. -/
theorem atom_of_sameAtom {k : HashKey} (same : SameAtom v w) (key : v.hashKey = .ok k) :
    v.form = .atom := by
  rcases same.form_left with atom | ⟨m, rfl⟩
  · exact atom
  · cases key

/-- The keys of atoms that are the same agree. -/
theorem keysAgree_of_sameAtom {k l : HashKey} (same : SameAtom v w) (key : v.hashKey = .ok k)
    (key' : w.hashKey = .ok l) : v.keysAgree w = true := by
  have left := atom_of_sameAtom same key
  have right := atom_of_sameAtom same.symm key'
  refine keysAgree_iff.mpr ⟨k, l, key, key', ?_⟩
  rcases hashKey_atom left key with rfl | ⟨c, rfl⟩
  · rcases hashKey_atom right key' with rfl | ⟨c, rfl⟩
    · exact HashKey.agrees_plain_iff.mpr same
    · cases same with
      | itself => cases key
      | essence _ right => cases right
  · cases same with
    | itself =>
        cases key
        cases key'
        have plain (v : Value) (atom : v.form = .atom) :
            (HashKey.plain v).agrees (.plain v) = true :=
          HashKey.agrees_plain_iff.mpr (.itself atom)
        exact HashKey.agrees_sequence_iff.mpr
          (.cons (plain _ rfl) (.cons (plain _ rfl) (.cons (plain _ rfl) .nil)))
    | essence left _ => cases left

/-! ### Items in their order -/

theorem hashKeys_ok_iff {ks : List HashKey} :
    hashKeys xs = .ok ks ↔ List.Forall₂ (fun x k => x.hashKey = .ok k) xs ks := by
  induction xs generalizing ks with
  | nil =>
      rw [hashKeys, List.forall₂_nil_left_iff, Except.ok.injEq]
      exact eq_comm
  | cons x xs ih =>
      rw [hashKeys, List.forall₂_cons_left_iff]
      constructor
      · intro h
        obtain ⟨k, first, h⟩ := Except.bind_ok_iff.mp h
        obtain ⟨ls, others, h⟩ := Except.bind_ok_iff.mp h
        exact ⟨k, ls, first, ih.mp others, (Except.ok.inj h).symm⟩
      · rintro ⟨k, ls, first, others, rfl⟩
        rw [first, ih.mpr others]
        rfl

/-- Items have keys together if each of them has one. -/
theorem exists_hashKeys_iff :
    (∃ ks, hashKeys xs = .ok ks) ↔ ∀ x ∈ xs, ∃ k, x.hashKey = .ok k := by
  constructor
  · rintro ⟨ks, keys⟩ x mem
    obtain ⟨k, -, key⟩ := exists_of_forall₂ (hashKeys_ok_iff.mp keys) mem
    exact ⟨k, key⟩
  · intro keyed
    induction xs with
    | nil => exact ⟨[], rfl⟩
    | cons x xs ih =>
        obtain ⟨⟨k, key⟩, others⟩ := List.forall_mem_cons.mp keyed
        obtain ⟨ks, keys⟩ := ih others
        exact ⟨k :: ks, hashKeys_ok_iff.mpr (.cons key (hashKeys_ok_iff.mp keys))⟩

/-- The keys of items agree one by one. -/
abbrev PartsAgree (xs ys : List Value) : Prop :=
  List.Forall₂ (fun x y => keysAgree x y = true) xs ys

theorem partsAgree_iff : PartsAgree xs ys ↔ ∃ ks ls, hashKeys xs = .ok ks ∧ hashKeys ys = .ok ls ∧
    List.Forall₂ (fun k l => k.agrees l = true) ks ls := by
  simp only [hashKeys_ok_iff]
  constructor
  · intro agree
    induction agree with
    | nil => exact ⟨[], [], .nil, .nil, .nil⟩
    | cons head _ ih =>
        obtain ⟨k, l, left, right, kl⟩ := keysAgree_iff.mp head
        obtain ⟨ks, ls, lefts, rights, agree⟩ := ih
        exact ⟨k :: ks, l :: ls, .cons left lefts, .cons right rights, .cons kl agree⟩
  · rintro ⟨ks, ls, lefts, rights, agree⟩
    induction agree generalizing xs ys with
    | nil =>
        cases lefts
        cases rights
        exact .nil
    | cons head _ ih =>
        cases lefts with
        | cons left lefts =>
            cases rights with
            | cons right rights =>
                exact .cons (keysAgree_iff.mpr ⟨_, _, left, right, head⟩) (ih lefts rights)

theorem partsAgree_iff_of_keys {ks ls : List HashKey} (left : hashKeys xs = .ok ks)
    (right : hashKeys ys = .ok ls) :
    PartsAgree xs ys ↔ (HashKey.sequence ks).agrees (.sequence ls) = true := by
  rw [partsAgree_iff, HashKey.agrees_sequence_iff]
  constructor
  · rintro ⟨ks', ls', left', right', agree⟩
    cases left.symm.trans left'
    cases right.symm.trans right'
    exact agree
  · intro agree
    exact ⟨ks, ls, left, right, agree⟩

/-- Items without keys that are written alike. -/
def TextsAgree (xs ys : List Value) : Prop :=
  (∃ f, hashKeys xs = .error f) ∧ (∃ f, hashKeys ys = .error f) ∧
    tupleText (literals xs) = tupleText (literals ys)

theorem hashKeys_operands (es : List Expr) :
    hashKeys (es.map .expr) = .ok (operandHashKeys es) := by
  induction es with
  | nil => rfl
  | cons e es ih =>
      rw [List.map_cons, hashKeys, ih]
      rfl

theorem hashKeys_rules (rs : List Rule) : hashKeys (rs.map .rule) = .ok (ruleHashKeys rs) := by
  induction rs with
  | nil => rfl
  | cons r rs ih =>
      rw [List.map_cons, hashKeys, ih]
      rfl

theorem keysAgree_iff_of_keys {k l : HashKey} (left : v.hashKey = .ok k)
    (right : w.hashKey = .ok l) : v.keysAgree w = true ↔ k.agrees l = true := by
  rw [keysAgree, left, right]

theorem keysAgree_tuple_iff : (tuple xs).keysAgree (.tuple ys) = true ↔ PartsAgree xs ys := by
  rw [keysAgree_iff, partsAgree_iff]
  constructor
  · rintro ⟨k, l, left, right, agree⟩
    obtain ⟨ks, lefts, rfl⟩ := Except.map_ok_iff.mp left
    obtain ⟨ls, rights, rfl⟩ := Except.map_ok_iff.mp right
    exact ⟨ks, ls, lefts, rights, HashKey.agrees_sequence_iff.mp agree⟩
  · rintro ⟨ks, ls, left, right, agree⟩
    exact ⟨_, _, Except.map_ok_iff.mpr ⟨ks, left, rfl⟩, Except.map_ok_iff.mpr ⟨ls, right, rfl⟩,
      HashKey.agrees_sequence_iff.mpr agree⟩

/-- The keys of leaves agree when those of their parameters do. Where neither leaf has keys for its
parameters, their text decides. -/
theorem agrees_bound_iff {p q : Predicate} :
    (Expr.bound p xs).hashKey.agrees (Expr.bound q ys).hashKey = true ↔
      p.key = q.key ∧ (PartsAgree xs ys ∨ TextsAgree xs ys) := by
  rw [Expr.hashKey, Expr.hashKey]
  cases left : hashKeys xs with
  | ok ks =>
      have keyed : ¬ TextsAgree xs ys := by
        rintro ⟨⟨f, none⟩, -⟩
        cases left.symm.trans none
      rw [or_iff_left keyed]
      cases right : hashKeys ys with
      | ok ls => rw [HashKey.agrees_named_iff, partsAgree_iff_of_keys left right]
      | error f =>
          rw [HashKey.agrees_named_iff, partsAgree_iff]
          refine and_congr_right fun _ => iff_of_false nofun ?_
          rintro ⟨_, ls, -, keys, -⟩
          cases right.symm.trans keys
  | error f =>
      have unkeyed : ¬ PartsAgree xs ys := by
        rw [partsAgree_iff]
        rintro ⟨ks, _, keys, -⟩
        cases left.symm.trans keys
      rw [or_iff_right unkeyed]
      cases right : hashKeys ys with
      | ok ls =>
          rw [HashKey.agrees_named_iff]
          refine and_congr_right fun _ => iff_of_false nofun ?_
          rintro ⟨-, ⟨_, none⟩, -⟩
          cases right.symm.trans none
      | error g =>
          rw [HashKey.agrees_named_iff]
          refine and_congr_right fun _ => HashKey.agrees_label_iff.trans ?_
          exact ⟨fun same => ⟨⟨f, left⟩, ⟨g, right⟩, same⟩, fun texts => texts.2.2⟩

end Value

/-- Whether items belong to a report. -/
def Shape.isReport : Shape → Bool
  | .errorSet _ | .result _ => true
  | _ => false

/-- When the keys of two values agree that have items of one shape. -/
def Shape.KeysAgree (shape : Shape) (xs ys : List Value) : Prop :=
  match shape with
  | .list _ => False
  | .bound _ => Value.PartsAgree xs ys ∨ Value.TextsAgree xs ys
  | _ => Value.PartsAgree xs ys

namespace Value

variable {v w : Value} {xs ys : List Value}

theorem partsAgree_singleton : PartsAgree [v] [w] ↔ v.keysAgree w = true :=
  List.forall₂_cons.trans (and_iff_left .nil)

theorem keysAgree_error_iff {path name path' name' : Label}
    {expected actual expected' actual' : Value} (paths : path.text = path'.text)
    (names : name.text = name'.text) :
    (error ⟨path, name, expected, actual⟩).keysAgree (.error ⟨path', name', expected', actual'⟩) =
      true ↔ PartsAgree [expected, actual] [expected', actual'] := by
  have key (path name : Label) (expected actual : Value) :
      (error ⟨path, name, expected, actual⟩).hashKey = (hashKeys [expected, actual]).map
        fun ks => .sequence (path.hashKey :: name.hashKey :: ks) := by
    rw [hashKey, hashKeys, hashKeys, hashKeys]
    cases expected.hashKey with
    | error f => rfl
    | ok k => cases actual.hashKey <;> rfl
  have labels {ks ls : List HashKey} :
      (HashKey.sequence (path.hashKey :: name.hashKey :: ks)).agrees
        (.sequence (path'.hashKey :: name'.hashKey :: ls)) = true ↔
        List.Forall₂ (fun k l => k.agrees l = true) ks ls := by
    rw [HashKey.agrees_sequence_iff, List.forall₂_cons, List.forall₂_cons,
      and_iff_right (HashKey.agrees_label_iff.mpr paths),
      and_iff_right (HashKey.agrees_label_iff.mpr names)]
  rw [keysAgree_iff, partsAgree_iff, key, key]
  constructor
  · rintro ⟨k, l, left, right, agree⟩
    obtain ⟨ks, lefts, rfl⟩ := Except.map_ok_iff.mp left
    obtain ⟨ls, rights, rfl⟩ := Except.map_ok_iff.mp right
    exact ⟨ks, ls, lefts, rights, labels.mp agree⟩
  · rintro ⟨ks, ls, left, right, agree⟩
    rw [left, right]
    exact ⟨_, _, rfl, rfl, labels.mpr agree⟩

/-- The keys of values that are not reports agree when those of their parts do. -/
theorem keysAgree_ordered_iff {s t : Shape} (left : IsOrdered v s xs) (right : IsOrdered w t ys)
    (shape : s = t) (noReport : s.isReport = false) :
    v.keysAgree w = true ↔ s.KeysAgree xs ys := by
  cases left with
  | list => exact iff_of_false nofun id
  | tuple =>
      cases right with
      | tuple => exact keysAgree_tuple_iff
      | _ => cases shape
  | bound p =>
      cases right with
      | bound q => exact agrees_bound_iff.trans (and_iff_right (Shape.bound.inj shape))
      | _ => cases shape
  | all es =>
      cases right with
      | all fs =>
          have parts := partsAgree_iff_of_keys (hashKeys_operands es) (hashKeys_operands fs)
          exact HashKey.agrees_named_iff.trans ((and_iff_right rfl).trans parts.symm)
      | _ => cases shape
  | any es =>
      cases right with
      | any fs =>
          have parts := partsAgree_iff_of_keys (hashKeys_operands es) (hashKeys_operands fs)
          exact HashKey.agrees_named_iff.trans ((and_iff_right rfl).trans parts.symm)
      | _ => cases shape
  | negation e =>
      cases right with
      | negation f =>
          have part : PartsAgree [expr e] [expr f] ↔ e.hashKey.agrees f.hashKey = true :=
            partsAgree_singleton
          exact HashKey.agrees_named_iff.trans ((and_iff_right rfl).trans part.symm)
      | _ => cases shape
  | rule path e =>
      cases right with
      | rule path' f =>
          have paths : path.hashKey.agrees path'.hashKey = true :=
            HashKey.agrees_label_iff.mpr (Shape.rule.inj shape)
          have part : PartsAgree [expr e] [expr f] ↔ e.hashKey.agrees f.hashKey = true :=
            partsAgree_singleton
          have key : List.Forall₂ (fun k l => k.agrees l = true) [e.hashKey] [f.hashKey] ↔
              e.hashKey.agrees f.hashKey = true :=
            List.forall₂_cons.trans (and_iff_left .nil)
          refine HashKey.agrees_sequence_iff.trans (List.forall₂_cons.trans ?_)
          exact (and_iff_right paths).trans (key.trans part.symm)
      | _ => cases shape
  | ruleSet rs =>
      cases right with
      | ruleSet ss => exact (partsAgree_iff_of_keys (hashKeys_rules rs) (hashKeys_rules ss)).symm
      | _ => cases shape
  | error path name =>
      cases right with
      | error path' name' =>
          obtain ⟨paths, names⟩ := Shape.error.inj shape
          exact keysAgree_error_iff paths names
      | _ => cases shape
  | errorSet | result => cases noReport

/-! ### Reports -/

/-- The keys of error sets agree when the attributes and the numbers of their errors do. -/
theorem agrees_errorSet_of_groups {gs hs : List (Label × List Error)}
    (same : List.Forall₂ (fun g h => g.1.text = h.1.text ∧ g.2.length = h.2.length) gs hs) :
    (ErrorSet.hashKey ⟨gs⟩).agrees (ErrorSet.hashKey ⟨hs⟩) = true := by
  refine HashKey.agrees_sequence_iff.mpr ?_
  rw [List.forall₂_map_left_iff, List.forall₂_map_right_iff]
  refine same.imp fun g h group => HashKey.agrees_sequence_iff.mpr ?_
  have number : (HashKey.plain (.int g.2.length)).agrees (.plain (.int h.2.length)) = true :=
    HashKey.agrees_plain_iff.mpr (group.2 ▸ .itself rfl)
  exact .cons (HashKey.agrees_label_iff.mpr group.1) (.cons number .nil)

/-- The keys of reports agree when their groups are related by a relation that sees to this. -/
theorem keysAgree_of_reports {R : Value → Value → Prop} {s t : Shape}
    (each : ∀ g h, R (groupValue g) (groupValue h) → g.1.text = h.1.text ∧ g.2.length = h.2.length)
    (left : IsOrdered v s xs) (right : IsOrdered w t ys) (shape : s = t)
    (report : s.isReport = true) (groups : List.Forall₂ R xs ys) : v.keysAgree w = true := by
  cases left with
  | errorSet gs =>
      cases right with
      | errorSet hs =>
          rw [List.forall₂_map_left_iff, List.forall₂_map_right_iff] at groups
          exact agrees_errorSet_of_groups (groups.imp each)
      | _ => cases shape
  | result gs =>
      cases right with
      | result hs =>
          rw [List.forall₂_map_left_iff, List.forall₂_map_right_iff] at groups
          exact HashKey.agrees_sequence_iff.mpr
            (.cons (agrees_errorSet_of_groups (groups.imp each)) .nil)
      | _ => cases shape
  | _ => cases report

/-! ### Members and entries in any order -/

theorem frozen_of_hashKey {k : HashKey} (form : v.form = .members xs) (key : v.hashKey = .ok k) :
    v = .set true xs ∧ ∃ ks, hashKeys xs = .ok ks ∧ k = .members ks := by
  obtain ⟨frozen, rfl⟩ := exists_set_of_form form
  cases frozen with
  | false => cases key
  | true =>
      obtain ⟨ks, keys, rfl⟩ := Except.map_ok_iff.mp key
      exact ⟨rfl, ks, keys, rfl⟩

/-- Only values that cannot be looked up by a key have entries. -/
theorem unkeyed_entries {es : List (Value × Value)} (form : v.form = .entries es) :
    ¬ ∃ k, v.hashKey = .ok k := by
  rintro ⟨k, key⟩
  cases v with
  | dict | mapping => cases key
  | expr e => cases e <;> cases form
  | _ => cases form

/-- The keys of sets agree when both have keys and as many members, and each member of one has a
member of the other with an agreeing key. -/
theorem keysAgree_members_iff (left : v.form = .members xs) (right : w.form = .members ys) :
    v.keysAgree w = true ↔ (∃ k, v.hashKey = .ok k) ∧ (∃ l, w.hashKey = .ok l) ∧
      xs.length = ys.length ∧ ∀ x ∈ xs, ∃ y ∈ ys, keysAgree x y = true := by
  have length {zs : List Value} {ks : List HashKey} (keys : hashKeys zs = .ok ks) :
      ks.length = zs.length := (hashKeys_ok_iff.mp keys).length_eq.symm
  rw [keysAgree_iff]
  constructor
  · rintro ⟨k, l, key, key', agree⟩
    refine ⟨⟨k, key⟩, ⟨l, key'⟩, ?_⟩
    obtain ⟨-, ks, keys, rfl⟩ := frozen_of_hashKey left key
    obtain ⟨-, ls, keys', rfl⟩ := frozen_of_hashKey right key'
    obtain ⟨lengths, each⟩ := HashKey.agrees_members_iff.mp agree
    refine ⟨by rw [← length keys, lengths, length keys'], fun x mem => ?_⟩
    obtain ⟨k, inKs, here⟩ := exists_of_forall₂ (hashKeys_ok_iff.mp keys) mem
    obtain ⟨l, inLs, kl⟩ := each k inKs
    obtain ⟨y, inYs, there⟩ := exists_of_forall₂ (hashKeys_ok_iff.mp keys').flip inLs
    exact ⟨y, inYs, keysAgree_iff.mpr ⟨k, l, here, there, kl⟩⟩
  · rintro ⟨⟨k, key⟩, ⟨l, key'⟩, lengths, each⟩
    refine ⟨k, l, key, key', ?_⟩
    obtain ⟨-, ks, keys, rfl⟩ := frozen_of_hashKey left key
    obtain ⟨-, ls, keys', rfl⟩ := frozen_of_hashKey right key'
    refine HashKey.agrees_members_iff.mpr
      ⟨by rw [length keys, lengths, length keys'], fun k inKs => ?_⟩
    obtain ⟨x, inXs, here⟩ := exists_of_forall₂ (hashKeys_ok_iff.mp keys).flip inKs
    obtain ⟨y, inYs, agree⟩ := each x inXs
    obtain ⟨l, inLs, there⟩ := exists_of_forall₂ (hashKeys_ok_iff.mp keys') inYs
    exact ⟨l, inLs, (keysAgree_iff_of_keys here there).mp agree⟩

end Value

end RecordRules
