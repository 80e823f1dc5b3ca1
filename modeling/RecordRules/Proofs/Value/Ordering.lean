import RecordRules.Proofs.Value.Comparable
import RecordRules.Value.Order

/-!
Values in order.

`HaveOrder` says which values have an order, family by family, and `RefuseOrder` of which the order
cannot be asked, because a decimal number meets not-a-number before the order is settled. Lists and
tuples come down to the first items that differ. Values that refuse are a fault in every relation
(`RefuseOrder.ordered`). Values that have an order stand in some relation
(`HaveOrder.exists_ordered`). Any others are denied an order, or it is a fault of their types to ask
for one (`Value.BuiltFrom.ordered_settled`).
-/

namespace RecordRules

inductive SequenceKind where
  | list
  | tuple

/-- The sequence of some items. -/
def SequenceKind.of : SequenceKind → List Value → Value
  | .list => .list
  | .tuple => .tuple

/-- What answers by one ordering says yes to some relation. -/
theorem Relation.exists_yes {answer : Relation → Except Fault Bool} {o : Ordering}
    (holds : ∀ r, answer r = .ok (r.holds o)) : ∃ r, answer r = .ok true := by
  cases o with
  | lt => exact ⟨.lt, holds .lt⟩
  | eq => exact ⟨.le, holds .le⟩
  | gt => exact ⟨.gt, holds .gt⟩

theorem Quantity.isNan_of_compare? {a b : Quantity} {o : Ordering}
    (compare : a.compare? b = some o) : a.isNan = false ∧ b.isNan = false := by
  cases a <;> cases b <;> first | exact ⟨rfl, rfl⟩ | cases compare

theorem Quantity.exists_compare? {a b : Quantity} (number : a.isNan = false)
    (number' : b.isNan = false) : ∃ o, a.compare? b = some o := by
  cases a with
  | nan => cases number
  | _ =>
      cases b with
      | nan => cases number'
      | _ => exact ⟨_, rfl⟩

namespace Value

/-- Each of some members is among others: it is the same as one of them, by key and by value. -/
def Within (xs ys : List Value) : Prop :=
  ∀ x ∈ xs, ∃ y ∈ ys, x.keysAgree y = true ∧ x.same y = .ok true

/-- Some members are included in others, which are no fewer. -/
structure Included (xs ys : List Value) : Prop where
  size : xs.length ≤ ys.length
  within : Within xs ys

/-- Two numbers of which one is decimal and one is not a number. -/
structure RefuseNumbers (v w : Value) : Prop where
  decimal : v.isDecimal = true ∨ w.isDecimal = true
  nan : ∃ a b, v.quantity? = some a ∧ w.quantity? = some b ∧ (a.isNan = true ∨ b.isNan = true)

/-- Two values have an order: they are numbers, texts, runs of bytes, days, or moments or times that
both have an offset or both have none; or sets, of which one is included in the other; or sequences,
one of which ends where they have been the same so far, or the first differing items of which have
an order. -/
inductive HaveOrder : Value → Value → Prop where
  | numbers {v w a b} (left : v.quantity? = some a) (right : w.quantity? = some b)
      (number : a.isNan = false) (number' : b.isNan = false) : HaveOrder v w
  | texts (s t) : HaveOrder (.text s) (.text t)
  | bytes (m xs n ys) : HaveOrder (.bytes m xs) (.bytes n ys)
  | dates (d e) : HaveOrder (.date d) (.date e)
  | moments {m n} (offsets : m.time.offset.isSome = n.time.offset.isSome) :
      HaveOrder (.moment m) (.moment n)
  | times {t u} (offsets : t.offset.isSome = u.offset.isSome) : HaveOrder (.time t) (.time u)
  | subset {f g xs ys} (included : Included xs ys) : HaveOrder (.set f xs) (.set g ys)
  | superset {f g xs ys} (included : Included ys xs) : HaveOrder (.set f xs) (.set g ys)
  | ended (s : SequenceKind) {xs ys} (ended : xs = [] ∨ ys = []) : HaveOrder (s.of xs) (s.of ys)
  | later (s : SequenceKind) {v w vs ws} (same : v.same w = .ok true)
      (rest : HaveOrder (s.of vs) (s.of ws)) : HaveOrder (s.of (v :: vs)) (s.of (w :: ws))
  | here (s : SequenceKind) {v w vs ws} (differ : v.same w = .ok false) (first : HaveOrder v w) :
      HaveOrder (s.of (v :: vs)) (s.of (w :: ws))

/-- The order of two values cannot be asked for: they are numbers of which one is decimal and one is
not a number; or sequences, where after items that are the same comes a pair that cannot be compared
or that differs and refuses. -/
inductive RefuseOrder : Value → Value → Prop where
  | numbers {v w} (refuse : RefuseNumbers v w) : RefuseOrder v w
  | later (s : SequenceKind) {v w vs ws} (same : v.same w = .ok true)
      (rest : RefuseOrder (s.of vs) (s.of ws)) : RefuseOrder (s.of (v :: vs)) (s.of (w :: ws))
  | here (s : SequenceKind) {v w vs ws} (differ : v.same w = .ok false) (first : RefuseOrder v w) :
      RefuseOrder (s.of (v :: vs)) (s.of (w :: ws))
  | unequatable (s : SequenceKind) {v w vs ws} (refused : v.same w = .error .refusedComparison) :
      RefuseOrder (s.of (v :: vs)) (s.of (w :: ws))

section Order

variable {r : Relation} {v w : Value}

/-! ### Sequences -/

/-- Only two lists or two tuples are ordered item by item. -/
theorem ordered_eq_orderedPlain (calm : v.refusal? = Option.none) (calm' : w.refusal? = Option.none)
    (noLists : ∀ xs ys, v = .list xs → w ≠ .list ys)
    (noTuples : ∀ xs ys, v = .tuple xs → w ≠ .tuple ys) :
    v.ordered r w = v.orderedPlain r w := by
  unfold ordered
  split
  · exact absurd rfl (noLists _ _ rfl)
  · exact absurd rfl (noTuples _ _ rfl)
  · rw [calm, calm']

theorem ordered_sequence (s : SequenceKind) (vs ws : List Value) :
    (s.of vs).ordered r (s.of ws) = orderedItems r vs ws := by
  cases s <;> rfl

theorem ordered_cons (s : SequenceKind) (vs ws : List Value) :
    (s.of (v :: vs)).ordered r (s.of (w :: ws)) =
      v.same w >>= fun same => if same then (s.of vs).ordered r (s.of ws) else v.ordered r w := by
  rw [ordered_sequence, ordered_sequence, orderedItems]

theorem BuiltFrom.items {atom : Value → Prop} (calm : ∀ x, atom x → x.IsCalm) {s : SequenceKind}
    {xs : List Value} (built : (s.of xs).BuiltFrom atom) : ∀ x ∈ xs, x.BuiltFrom atom := by
  cases s with
  | list =>
      cases built with
      | atom isAtom => cases (calm _ isAtom).form
      | list each => exact each
  | tuple =>
      cases built with
      | atom isAtom => cases (calm _ isAtom).form
      | tuple each => exact each

theorem BuiltFrom.sequence_cons {atom : Value → Prop} (calm : ∀ x, atom x → x.IsCalm)
    (s : SequenceKind) {x : Value} {xs : List Value} (built : (s.of (x :: xs)).BuiltFrom atom) :
    x.BuiltFrom atom ∧ (s.of xs).BuiltFrom atom := by
  obtain ⟨first, others⟩ := List.forall_mem_cons.mp (built.items calm)
  cases s with
  | list => exact ⟨first, .list others⟩
  | tuple => exact ⟨first, .tuple others⟩

theorem BuiltFrom.members {atom : Value → Prop} (calm : ∀ x, atom x → x.IsCalm) {f : Bool}
    {xs : List Value} (built : (Value.set f xs).BuiltFrom atom) : ∀ x ∈ xs, x.BuiltFrom atom := by
  cases built with
  | atom isAtom => cases (calm _ isAtom).form
  | set _ each => exact each

/-! ### Values whose order is refused -/

theorem ordered_number {a b : Quantity} (left : v.quantity? = some a)
    (right : w.quantity? = some b) : v.ordered r w =
      if (v.isDecimal || w.isDecimal) && (a.isNan || b.isNan) then .error .refusedComparison
      else
        match a.compare? b with
        | some o => .ok (r.holds o)
        | Option.none => .ok false := by
  cases v <;> cases left <;> cases w <;> cases right <;> rfl

/-- Asking for a refused order is a fault, whatever the relation. -/
theorem RefuseOrder.ordered (refuse : RefuseOrder v w) (r : Relation) :
    v.ordered r w = .error .refusedComparison := by
  induction refuse with
  | numbers refuse =>
      obtain ⟨decimal, a, b, left, right, nan⟩ := refuse
      rw [ordered_number left right]
      simp [decimal, nan]
  | later s same _ ih => rw [ordered_cons, same, Except.ok_bind, if_pos rfl, ih]
  | here s differ _ ih => rw [ordered_cons, differ, Except.ok_bind, if_neg (by decide), ih]
  | unequatable s refused => rw [ordered_cons, refused, Except.error_bind]

/-- A number that is built from atoms is one of them. -/
theorem BuiltFrom.atom_of_number {atom : Value → Prop} {a : Quantity} (built : v.BuiltFrom atom)
    (number : v.quantity? = some a) : atom v := by
  cases built with
  | atom isAtom => exact isAtom
  | _ => cases number

/-- The order of two values is not refused, if no two of the atoms that they are built from refuse
to be compared or ordered. -/
theorem BuiltFrom.not_refuseOrder {atom : Value → Prop} (calm : ∀ x, atom x → x.IsCalm)
    (quiet : ∀ x, atom x → x.IsQuiet) (numbers : ∀ x y, atom x → atom y → ¬ RefuseNumbers x y)
    (left : v.BuiltFrom atom) (right : w.BuiltFrom atom) : ¬ RefuseOrder v w := by
  intro refuse
  induction refuse with
  | numbers refuse =>
      obtain ⟨-, a, b, number, number', -⟩ := id refuse
      exact numbers _ _ (left.atom_of_number number) (right.atom_of_number number') refuse
  | later s _ _ ih => exact ih (left.sequence_cons calm s).2 (right.sequence_cons calm s).2
  | here s _ _ ih => exact ih (left.sequence_cons calm s).1 (right.sequence_cons calm s).1
  | unequatable s refused =>
      have left := (left.sequence_cons calm s).1
      have right := (right.sequence_cons calm s).1
      have compared : Except.FaultsIn (fun _ => False) (Value.same _ _) :=
        left.same_faultsIn calm (fun x y inX inY =>
          (equalPlain_answers (quiet x inX) (quiet y inY)).faultsIn) right
      exact compared _ refused

/-! ### Sets -/

/-- What has a key holds no number that cannot be compared. -/
theorem BuiltFrom.quiet_of_hashKey {k : HashKey} (built : v.BuiltFrom IsCalm)
    (key : v.hashKey = .ok k) : v.BuiltFrom fun x => x.IsCalm ∧ x.IsQuiet := by
  induction built generalizing k with
  | @atom v isCalm =>
      refine .atom ⟨isCalm, fun q number => ?_⟩
      cases v with
      | float tag x =>
          cases number
          exact Quantity.isSignaling_ofBinary x
      | decimal tag x =>
          cases number
          rw [hashKey] at key
          split at key
          · cases key
          · rename_i quiet
            cases x <;> first | rfl | exact eq_false_of_ne_true quiet
      | _ => cases number <;> rfl
  | list => cases key
  | tuple _ ih =>
      obtain ⟨ks, keys, -⟩ := Except.map_ok_iff.mp key
      refine .tuple fun x mem => ?_
      obtain ⟨k, -, key⟩ := exists_of_forall₂ (hashKeys_ok_iff.mp keys) mem
      exact ih x mem key
  | set frozen _ ih =>
      cases frozen with
      | false => cases key
      | true =>
          obtain ⟨ks, keys, -⟩ := Except.map_ok_iff.mp key
          refine .set true fun x mem => ?_
          obtain ⟨k, -, key⟩ := exists_of_forall₂ (hashKeys_ok_iff.mp keys) mem
          exact ih x mem key
  | dict => cases key

/-- Values with keys that agree can be compared. -/
theorem BuiltFrom.same_answers_of_keysAgree (left : v.BuiltFrom IsCalm)
    (right : w.BuiltFrom IsCalm) (agree : v.keysAgree w = true) : Answers (v.same w) := by
  obtain ⟨k, l, key, key', -⟩ := keysAgree_iff.mp agree
  refine .of_faultsIn ((left.quiet_of_hashKey key).same_faultsIn (fun _ => And.left) ?_
    (right.quiet_of_hashKey key'))
  exact fun x y x_quiet y_quiet => (equalPlain_answers x_quiet.2 y_quiet.2).faultsIn

theorem equalMembers_decides_within {xs ys : List Value} (left : ∀ x ∈ xs, x.BuiltFrom IsCalm)
    (right : ∀ y ∈ ys, y.BuiltFrom IsCalm) : Decides (equalMembers xs ys) (Within xs ys) := by
  induction xs with
  | nil => exact .of_true (List.forall_mem_nil _)
  | cons x xs ih =>
      obtain ⟨built, others⟩ := List.forall_mem_cons.mp left
      have test : ∀ y ∈ ys, Decides (if x.keysAgree y = true then x.same y else .ok false)
          (x.keysAgree y = true ∧ x.same y = .ok true) := by
        refine fun y mem => .ite fun agree => ?_
        obtain ⟨b, answer⟩ := built.same_answers_of_keysAgree (right y mem) agree
        exact ⟨b, answer, by rw [answer, Except.ok.injEq]⟩
      refine ((anyHolds_decides test).and fun _ => ih others).congr ?_
      simp only [Within, List.forall_mem_cons]

/-! ### Values that can be asked for their order -/

/-- What can come of asking for the order of two values: yes only if they have one, or no, or a
fault of their types. -/
structure Settled (v w : Value) (x : Except Fault Bool) : Prop where
  faults : OnlyTypeFaults x
  order : x = .ok true → HaveOrder v w

theorem Settled.no : Settled v w (.ok false) := ⟨.ok _, nofun⟩

theorem Settled.yes (order : HaveOrder v w) (b : Bool) : Settled v w (.ok b) :=
  ⟨.ok _, fun _ => order⟩

theorem Settled.error (message : String) :
    Settled v w (.error (.ofMessage .type message)) := ⟨.error _, nofun⟩

theorem Settled.of_decides {x : Except Fault Bool} {p : Prop} (decides : Decides x p)
    (order : p → HaveOrder v w) : Settled v w x := by
  obtain ⟨b, rfl, iff⟩ := decides
  exact ⟨.ok _, fun yes => order (iff.mp (Except.ok.inj yes))⟩

theorem orderedMembers_settled {f g : Bool} {xs ys : List Value}
    (left : (Value.set f xs).BuiltFrom IsCalm) (right : (Value.set g ys).BuiltFrom IsCalm) :
    Settled (.set f xs) (.set g ys) (orderedMembers r xs ys) := by
  have left := left.members fun _ => id
  have right := right.members fun _ => id
  have forth := equalMembers_decides_within left right
  have back := equalMembers_decides_within right left
  cases r with
  | lt => exact .of_decides (.ite fun _ => forth) fun ⟨size, within⟩ => .subset ⟨size.le, within⟩
  | le => exact .of_decides (.ite fun _ => forth) fun ⟨size, within⟩ => .subset ⟨size, within⟩
  | gt => exact .of_decides (.ite fun _ => back) fun ⟨size, within⟩ => .superset ⟨size.le, within⟩
  | ge => exact .of_decides (.ite fun _ => back) fun ⟨size, within⟩ => .superset ⟨size, within⟩

theorem orderedPlain_settled (left : v.BuiltFrom IsCalm) (right : w.BuiltFrom IsCalm)
    (accepted : ¬ RefuseOrder v w) : Settled v w (v.orderedPlain r w) := by
  unfold orderedPlain
  split
  · exact .yes (.texts _ _) _
  · exact .yes (.bytes _ _ _ _) _
  · exact .yes (.dates _ _) _
  -- moments and times may lack an offset, and a day has no order with a moment
  · split
    · rename_i compare
      unfold Calendar.Moment.compare? at compare
      split at compare
      · exact .yes (.moments ‹_›) _
      · cases compare
    · exact .error _
  · exact .error _
  · exact .error _
  · split
    · rename_i compare
      unfold Calendar.Time.compare? at compare
      split at compare
      · exact .yes (.times ‹_›) _
      · cases compare
    · exact .error _
  · exact orderedMembers_settled left right
  · split
    · rename_i a b left right
      split
      · rename_i refused
        rw [Bool.and_eq_true, Bool.or_eq_true, Bool.or_eq_true] at refused
        exact absurd (.numbers ⟨refused.1, a, b, left, right, refused.2⟩) accepted
      · split
        · rename_i compare
          obtain ⟨number, number'⟩ := Quantity.isNan_of_compare? compare
          exact .yes (.numbers left right number number') _
        · exact .no
    · unfold noOrder
      split <;> exact .error _

theorem orderedItems_settled (s : SequenceKind) {vs ws : List Value}
    (each : ∀ v ∈ vs, ∀ w : Value, w.BuiltFrom IsCalm → ¬ RefuseOrder v w →
      Settled v w (v.ordered r w))
    (left : ∀ v ∈ vs, v.BuiltFrom IsCalm) (right : ∀ w ∈ ws, w.BuiltFrom IsCalm)
    (accepted : ¬ RefuseOrder (s.of vs) (s.of ws)) :
    Settled (s.of vs) (s.of ws) ((s.of vs).ordered r (s.of ws)) := by
  induction vs generalizing ws with
  | nil =>
      rw [ordered_sequence]
      exact .yes (.ended s (.inl rfl)) _
  | cons v vs ih =>
      cases ws with
      | nil =>
          rw [ordered_sequence]
          exact .yes (.ended s (.inr rfl)) _
      | cons w ws =>
          obtain ⟨first, others⟩ := List.forall_mem_cons.mp each
          obtain ⟨v_built, vs_built⟩ := List.forall_mem_cons.mp left
          obtain ⟨w_built, ws_built⟩ := List.forall_mem_cons.mp right
          rw [ordered_cons]
          cases same : v.same w with
          | error f =>
              have refused := v_built.same_faultsIn (fun _ => id)
                (fun x y _ _ => (equalPlain_faultsIn x y).mono fun _ => And.left) w_built f same
              exact absurd (.unequatable s (refused ▸ same)) accepted
          | ok b =>
              cases b with
              | true =>
                  have rest := ih others vs_built ws_built fun refuse =>
                    accepted (.later s same refuse)
                  exact ⟨rest.faults, fun yes => .later s same (rest.order yes)⟩
              | false =>
                  have here := first w w_built fun refuse => accepted (.here s same refuse)
                  exact ⟨here.faults, fun yes => .here s same (here.order yes)⟩

/-- Values whose order is not refused are in order, or are denied an order, or it is a fault of
their types to ask for one. -/
theorem BuiltFrom.ordered_settled (left : v.BuiltFrom IsCalm) (right : w.BuiltFrom IsCalm)
    (accepted : ¬ RefuseOrder v w) : Settled v w (v.ordered r w) := by
  have whole {v w : Value} (left : v.BuiltFrom IsCalm) (right : w.BuiltFrom IsCalm)
      (accepted : ¬ RefuseOrder v w) (noLists : ∀ xs ys, v = .list xs → w ≠ .list ys)
      (noTuples : ∀ xs ys, v = .tuple xs → w ≠ .tuple ys) : Settled v w (v.ordered r w) := by
    rw [ordered_eq_orderedPlain (left.refusal?_eq_none fun _ => id)
      (right.refusal?_eq_none fun _ => id) noLists noTuples]
    exact orderedPlain_settled left right accepted
  induction left generalizing w with
  | @atom v isCalm =>
      refine whole (.atom isCalm) right accepted ?_ ?_
      · rintro xs ys rfl
        cases isCalm.form
      · rintro xs ys rfl
        cases isCalm.form
  | @list vs each ih =>
      by_cases both : ∃ ws, w = .list ws
      · obtain ⟨ws, rfl⟩ := both
        exact orderedItems_settled .list (fun v mem w => ih v mem) each
          (right.items (s := .list) fun _ => id) accepted
      · refine whole (.list each) right accepted (fun xs ys _ there => both ⟨ys, there⟩) nofun
  | @tuple vs each ih =>
      by_cases both : ∃ ws, w = .tuple ws
      · obtain ⟨ws, rfl⟩ := both
        exact orderedItems_settled .tuple (fun v mem w => ih v mem) each
          (right.items (s := .tuple) fun _ => id) accepted
      · refine whole (.tuple each) right accepted nofun fun xs ys _ there => both ⟨ys, there⟩
  | set frozen each => exact whole (.set frozen each) right accepted nofun nofun
  | dict readOnly keys values => exact whole (.dict readOnly keys values) right accepted nofun nofun

/-- Values that have an order stand in some relation. -/
theorem HaveOrder.exists_ordered (order : HaveOrder v w) (left : v.BuiltFrom IsCalm)
    (right : w.BuiltFrom IsCalm) : ∃ r, v.ordered r w = .ok true := by
  induction order with
  | @numbers v w a b left' right' number number' =>
      obtain ⟨o, compare⟩ := Quantity.exists_compare? number number'
      refine Relation.exists_yes (o := o) fun r => ?_
      rw [ordered_number left' right', number, number', compare, Bool.or_self, Bool.and_false]
      rfl
  | texts s t => exact Relation.exists_yes fun r => rfl
  | bytes m xs n ys => exact Relation.exists_yes fun r => rfl
  | dates d e => exact Relation.exists_yes fun r => rfl
  | @moments m n offsets =>
      have compare : m.compare? n = some (Ord.compare m.instant n.instant) := if_pos offsets
      refine Relation.exists_yes (o := Ord.compare m.instant n.instant) fun r => ?_
      change (Value.moment m).orderedPlain r (.moment n) = _
      rw [orderedPlain, compare]
  | @times t u offsets =>
      have compare : t.compare? u = some (Ord.compare t.instant u.instant) := if_pos offsets
      refine Relation.exists_yes (o := Ord.compare t.instant u.instant) fun r => ?_
      change (Value.time t).orderedPlain r (.time u) = _
      rw [orderedPlain, compare]
  | @subset f g xs ys included =>
      have decides := equalMembers_decides_within (left.members fun _ => id)
        (right.members fun _ => id)
      have inside : orderedMembers .le xs ys = equalMembers xs ys := if_pos included.size
      exact ⟨.le, inside.trans (decides.eq_true_iff.mpr included.within)⟩
  | @superset f g xs ys included =>
      have decides := equalMembers_decides_within (right.members fun _ => id)
        (left.members fun _ => id)
      have inside : orderedMembers .ge xs ys = equalMembers ys xs := if_pos included.size
      exact ⟨.ge, inside.trans (decides.eq_true_iff.mpr included.within)⟩
  | @ended s xs ys ended =>
      refine Relation.exists_yes (o := Ord.compare xs.length ys.length) fun r => ?_
      rw [ordered_sequence]
      rcases ended with rfl | rfl
      · rfl
      · cases xs <;> rfl
  | later s same _ ih =>
      obtain ⟨r, rest⟩ := ih (left.sequence_cons (fun _ => id) s).2
        (right.sequence_cons (fun _ => id) s).2
      refine ⟨r, ?_⟩
      rw [ordered_cons, same, Except.ok_bind, if_pos rfl, rest]
  | here s differ _ ih =>
      obtain ⟨r, first⟩ := ih (left.sequence_cons (fun _ => id) s).1
        (right.sequence_cons (fun _ => id) s).1
      refine ⟨r, ?_⟩
      rw [ordered_cons, differ, Except.ok_bind, if_neg (by decide), first]

end Order

end Value

end RecordRules
