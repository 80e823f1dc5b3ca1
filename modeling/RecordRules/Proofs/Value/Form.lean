import RecordRules.Proofs.Outcome
import RecordRules.Value.Equality

/-!
The forms of values.

Equality takes values apart in one of three ways: items in their order, members in any order, and
entries in any order. Expressions, rules and reports are items in their order too, under a shape
that says what they belong to. Everything else is an atom. `Value.form` gives the form of a value,
`equal_ordered`, `equal_members` and `equal_entries` how two values of one form are compared, and
`equal_of_unlike` that two values of different forms are compared as atoms, and are not equal.
-/

namespace RecordRules

/-- What items in their order belong to. -/
inductive Shape where
  | list (length : Nat)
  | tuple
  | bound (key : String)
  | all
  | any
  | negation
  | rule (path : String)
  | ruleSet
  | error (path name : String)
  | errorSet (length : Nat)
  | result (length : Nat)
deriving DecidableEq

/-- How equality takes a value apart. -/
inductive Form where
  | atom
  | ordered (shape : Shape) (parts : List Value)
  | members (items : List Value)
  | entries (es : List (Value × Value))

inductive Form.Kind where
  | atom | ordered | members | entries
deriving DecidableEq

def Form.kind : Form → Form.Kind
  | .atom => .atom
  | .ordered _ _ => .ordered
  | .members _ => .members
  | .entries _ => .entries

theorem Form.eq_atom_of_kind {f : Form} (kind : f.kind = .atom) : f = .atom := by
  cases f with
  | atom => rfl
  | _ => cases kind

/-- The errors for an attribute as one value. -/
def groupValue (g : Label × List Error) : Value :=
  .tuple (.text g.1 :: g.2.map .error)

def Expr.form : Expr → Form
  | .bound p params => .ordered (.bound p.key) params
  | .all es => .ordered .all (es.map .expr)
  | .any es => .ordered .any (es.map .expr)
  | .negation e => .ordered .negation [.expr e]

def Value.form : Value → Form
  | .list items => .ordered (.list items.length) items
  | .tuple items => .ordered .tuple items
  | .expr e => e.form
  | .rule r => .ordered (.rule r.path.text) [.expr r.expr]
  | .ruleSet rs => .ordered .ruleSet (rs.rules.map .rule)
  | .error e => .ordered (.error e.path.text e.ruleName.text) [e.expected, e.actual]
  | .errorSet es => .ordered (.errorSet es.groups.length) (es.groups.map groupValue)
  | .result r => .ordered (.result r.errors.groups.length) (r.errors.groups.map groupValue)
  | .set _ items => .members items
  | .dict _ es => .entries es
  | .mapping m => .entries m.entries
  | _ => .atom

/-- A mapping all of whose keys can be read. -/
def Value.IsReadable (v : Value) : Prop :=
  ∀ m, v = .mapping m → m.failing = []

/-! ### Asking values one by one -/

section Scan

variable {test : Value → Except Fault Bool} {vs : List Value}

theorem anyHolds_cons_no {v : Value} (no : test v = .ok false) :
    anyHolds test (v :: vs) = anyHolds test vs := by
  rw [anyHolds, no]
  rfl

theorem anyHolds_cons_stop {v : Value} {outcome : Except Fault Bool} (here : test v = outcome)
    (stop : outcome ≠ .ok false) : anyHolds test (v :: vs) = outcome := by
  rw [anyHolds, here]
  rcases outcome with f | _ | _
  · rfl
  · exact absurd rfl stop
  · rfl

/-- The answer is no if all answer no. -/
theorem anyHolds_eq_no_iff : anyHolds test vs = .ok false ↔ ∀ v ∈ vs, test v = .ok false := by
  induction vs with
  | nil => exact iff_of_true rfl (List.forall_mem_nil _)
  | cons v vs ih =>
      rw [List.forall_mem_cons]
      by_cases no : test v = .ok false
      · rw [anyHolds_cons_no no, ih]
        exact (and_iff_right no).symm
      · rw [anyHolds_cons_stop rfl no]
        exact iff_of_false no fun all => no all.1

/-- Any other outcome is that of the first one that does not answer no. -/
theorem anyHolds_eq_iff {outcome : Except Fault Bool} (stop : outcome ≠ .ok false) :
    anyHolds test vs = outcome ↔ ∃ before v after, vs = before ++ v :: after ∧
      (∀ u ∈ before, test u = .ok false) ∧ test v = outcome := by
  constructor
  · intro h
    induction vs with
    | nil => exact absurd h.symm stop
    | cons v vs ih =>
        by_cases no : test v = .ok false
        · rw [anyHolds_cons_no no] at h
          obtain ⟨before, w, after, rfl, unmet, here⟩ := ih h
          exact ⟨v :: before, w, after, rfl, List.forall_mem_cons.mpr ⟨no, unmet⟩, here⟩
        · rw [anyHolds_cons_stop rfl no] at h
          exact ⟨[], v, vs, rfl, List.forall_mem_nil _, h⟩
  · rintro ⟨before, v, after, rfl, unmet, here⟩
    induction before with
    | nil => exact anyHolds_cons_stop here stop
    | cons u before ih =>
        obtain ⟨no, others⟩ := List.forall_mem_cons.mp unmet
        rw [List.cons_append, anyHolds_cons_no no]
        exact ih others

/-- Where the answer is yes, one of them answers yes. -/
theorem exists_of_anyHolds (holds : anyHolds test vs = .ok true) : ∃ v ∈ vs, test v = .ok true := by
  have stop : (.ok true : Except Fault Bool) ≠ .ok false := nofun
  obtain ⟨before, v, after, rfl, -, here⟩ := (anyHolds_eq_iff stop).mp holds
  exact ⟨v, List.mem_append_right _ List.mem_cons_self, here⟩

end Scan

theorem bind_true (x : Except Fault Bool) :
    (x >>= fun b => if b = true then .ok true else pure false) = x := by
  rcases x with _ | _ | _ <;> rfl

/-- Items are equal when they are the same one by one. -/
theorem equalItems_eq_true_iff {vs ws : List Value} :
    equalItems vs ws = .ok true ↔ List.Forall₂ (fun v w => Value.same v w = .ok true) vs ws := by
  induction vs generalizing ws with
  | nil => cases ws <;> simp [equalItems]
  | cons v vs ih =>
      cases ws with
      | nil => simp [equalItems]
      | cons w ws =>
          rw [List.forall₂_cons, ← ih, equalItems, Except.bind_ok_iff]
          constructor
          · rintro ⟨same, head, tail⟩
            cases same with
            | true => exact ⟨head, tail⟩
            | false => cases tail
          · rintro ⟨head, tail⟩
            exact ⟨true, head, tail⟩

/-- Each of some members has an equal one among others, with an agreeing key. -/
theorem exists_of_equalMembers {vs ws : List Value} (equal : equalMembers vs ws = .ok true) :
    ∀ v ∈ vs, ∃ w ∈ ws, v.keysAgree w = true ∧ v.same w = .ok true := by
  induction vs with
  | nil => exact List.forall_mem_nil _
  | cons v vs ih =>
      obtain ⟨here, first, rest⟩ := Except.bind_ok_iff.mp equal
      cases here with
      | false => cases rest
      | true =>
          refine List.forall_mem_cons.mpr ⟨?_, ih rest⟩
          obtain ⟨w, mem, found⟩ := exists_of_anyHolds first
          split at found
          · exact ⟨w, mem, ‹_›, found⟩
          · cases found

section Ordered

theorem equalOperands_eq (es fs : List Expr) :
    equalOperands es fs = equalItems (es.map .expr) (fs.map .expr) := by
  induction es generalizing fs with
  | nil => cases fs <;> rfl
  | cons e es ih =>
      cases fs with
      | nil => rfl
      | cons f fs =>
          rw [equalOperands, List.map_cons, List.map_cons, equalItems, ih]
          rfl

theorem equalRules_eq (rs ss : List Rule) :
    equalRules rs ss = equalItems (rs.map .rule) (ss.map .rule) := by
  induction rs generalizing ss with
  | nil => cases ss <;> rfl
  | cons r rs ih =>
      cases ss with
      | nil => rfl
      | cons s ss =>
          rw [equalRules, List.map_cons, List.map_cons, equalItems, ih]
          rfl

theorem equalErrors_eq (es fs : List Error) :
    equalErrors es fs = equalItems (es.map .error) (fs.map .error) := by
  induction es generalizing fs with
  | nil => cases fs <;> rfl
  | cons e es ih =>
      cases fs with
      | nil => rfl
      | cons f fs =>
          rw [equalErrors, List.map_cons, List.map_cons, equalItems, ih]
          rfl

theorem equalGroups_eq (gs hs : List (Label × List Error)) :
    equalGroups gs hs = equalItems (gs.map groupValue) (hs.map groupValue) := by
  induction gs generalizing hs with
  | nil => cases hs <;> rfl
  | cons g gs ih =>
      cases hs with
      | nil => rfl
      | cons h hs =>
          obtain ⟨path, es⟩ := g
          obtain ⟨path', fs⟩ := h
          have group : sameOr (groupValue (path, es)) (groupValue (path', fs))
              (groupValue (path, es)).equal =
              if path.text = path'.text then equalErrors es fs else .ok false := by
            rw [equalErrors_eq]
            have label : sameOr (.text path) (.text path') (Value.text path).equal =
                .ok (path.text == path'.text) := rfl
            change equalItems (.text path :: es.map .error) (.text path' :: fs.map .error) = _
            rw [equalItems, label]
            by_cases same : path.text = path'.text
            · rw [if_pos same, beq_iff_eq.mpr same]
              rfl
            · rw [if_neg same, beq_eq_false_iff_ne.mpr same]
              rfl
          rw [equalGroups, List.map_cons, List.map_cons, equalItems, ih, group]
          split <;> rfl

end Ordered

/-! ### Items in their order -/

/-- A value that is taken apart into items in their order. -/
inductive IsOrdered : Value → Shape → List Value → Prop where
  | list (items : List Value) : IsOrdered (.list items) (.list items.length) items
  | tuple (items : List Value) : IsOrdered (.tuple items) .tuple items
  | bound (p : Predicate) (params : List Value) :
      IsOrdered (.expr (.bound p params)) (.bound p.key) params
  | all (es : List Expr) : IsOrdered (.expr (.all es)) .all (es.map .expr)
  | any (es : List Expr) : IsOrdered (.expr (.any es)) .any (es.map .expr)
  | negation (e : Expr) : IsOrdered (.expr (.negation e)) .negation [.expr e]
  | rule (path : Label) (e : Expr) : IsOrdered (.rule ⟨path, e⟩) (.rule path.text) [.expr e]
  | ruleSet (rules : List Rule) : IsOrdered (.ruleSet ⟨rules⟩) .ruleSet (rules.map .rule)
  | error (path ruleName : Label) (expected actual : Value) :
      IsOrdered (.error ⟨path, ruleName, expected, actual⟩) (.error path.text ruleName.text)
        [expected, actual]
  | errorSet (groups : List (Label × List Error)) :
      IsOrdered (.errorSet ⟨groups⟩) (.errorSet groups.length) (groups.map groupValue)
  | result (groups : List (Label × List Error)) :
      IsOrdered (.result ⟨⟨groups⟩⟩) (.result groups.length) (groups.map groupValue)

section Forms

variable {v w : Value}

theorem isOrdered_of_form {s : Shape} {xs : List Value} (form : v.form = .ordered s xs) :
    IsOrdered v s xs := by
  cases v with
  | expr e => cases e <;> cases form <;> constructor
  | list _ | tuple _ =>
      cases form
      constructor
  | rule r =>
      obtain ⟨path, e⟩ := r
      cases form
      exact .rule path e
  | ruleSet rs =>
      obtain ⟨rules⟩ := rs
      cases form
      exact .ruleSet rules
  | error e =>
      obtain ⟨path, name, expected, actual⟩ := e
      cases form
      exact .error path name expected actual
  | errorSet es =>
      obtain ⟨groups⟩ := es
      cases form
      exact .errorSet groups
  | result r =>
      obtain ⟨⟨groups⟩⟩ := r
      cases form
      exact .result groups
  | _ => cases form

/-- Items in their order are compared one by one, if they belong to the same. -/
theorem equal_ordered {s t : Shape} {xs ys : List Value} (left : v.form = .ordered s xs)
    (right : w.form = .ordered t ys) :
    v.equal w = if s = t then equalItems xs ys else .ok false := by
  cases isOrdered_of_form left with
  | list xs =>
      cases isOrdered_of_form right with
      | list ys => simp only [Value.equal, Shape.list.injEq]
      | _ => rfl
  | tuple xs =>
      cases isOrdered_of_form right with
      | tuple ys => rfl
      | _ => rfl
  | bound p xs =>
      cases isOrdered_of_form right with
      | bound q ys => simp only [Value.equal, Expr.equal, Shape.bound.injEq]
      | _ => rfl
  | all es =>
      cases isOrdered_of_form right with
      | all fs => simp only [Value.equal, Expr.equal, equalOperands_eq, if_true]
      | _ => rfl
  | any es =>
      cases isOrdered_of_form right with
      | any fs => simp only [Value.equal, Expr.equal, equalOperands_eq, if_true]
      | _ => rfl
  | negation e =>
      cases isOrdered_of_form right with
      | negation f => exact (bind_true (e.equal f)).symm
      | _ => rfl
  | rule path e =>
      cases isOrdered_of_form right with
      | rule path' f =>
          simp only [Value.equal, Rule.equal, Shape.rule.injEq]
          split
          · exact (bind_true (e.equal f)).symm
          · rfl
      | _ => rfl
  | ruleSet rs =>
      cases isOrdered_of_form right with
      | ruleSet ss => simp only [Value.equal, equalRules_eq, if_true]
      | _ => rfl
  | error path name expected actual =>
      cases isOrdered_of_form right with
      | error path' name' expected' actual' =>
          simp only [Value.equal, Error.equal, Shape.error.injEq, equalItems, bind_true]
      | _ => rfl
  | errorSet gs =>
      cases isOrdered_of_form right with
      | errorSet hs => simp only [Value.equal, equalGroups_eq, Shape.errorSet.injEq]
      | _ => rfl
  | result gs =>
      cases isOrdered_of_form right with
      | result hs => simp only [Value.equal, equalGroups_eq, Shape.result.injEq]
      | _ => rfl

/-! ### Members and entries in any order -/

theorem equal_members {xs ys : List Value} (left : v.form = .members xs)
    (right : w.form = .members ys) :
    v.equal w = if xs.length = ys.length then equalMembers xs ys else .ok false := by
  cases v with
  | set _ xs =>
      cases left
      cases w with
      | set _ ys => cases right; rfl
      | expr f => cases f <;> cases right
      | _ => cases right
  | expr e => cases e <;> cases left
  | _ => cases left

theorem read_of_failing_nil {m : Mapping} (readable : m.failing = []) :
    m.read = .ok m.entries := by
  have none : (m.entries.findSome? fun e => e.1.text?.bind (m.failing.lookup ·)) = .none := by
    rw [List.findSome?_eq_none_iff]
    intro e _
    rw [readable]
    cases e.1.text? <;> rfl
  rw [Mapping.read, none]

theorem equal_entries {xs ys : List (Value × Value)} (left : v.form = .entries xs)
    (right : w.form = .entries ys) (readable : v.IsReadable) (readable' : w.IsReadable) :
    v.equal w = if xs.length = ys.length then equalEntries xs ys else .ok false := by
  cases v with
  | dict _ xs =>
      cases left
      cases w with
      | dict _ ys => cases right; rfl
      | mapping m =>
          cases right
          simp only [Value.equal, read_of_failing_nil (readable' m rfl), Except.ok_bind]
          rfl
      | expr f => cases f <;> cases right
      | _ => cases right
  | mapping m =>
      cases left
      obtain ⟨tag, label, xs, failing⟩ := m
      have read := read_of_failing_nil (readable _ rfl)
      cases w with
      | dict _ ys =>
          cases right
          simp only [Value.equal, read, Except.ok_bind]
          rfl
      | mapping m =>
          cases right
          simp only [Value.equal, read, read_of_failing_nil (readable' m rfl), Except.ok_bind]
          rfl
      | expr f => cases f <;> cases right
      | _ => cases right
  | expr e => cases e <;> cases left
  | _ => cases left

/-! ### Values of different forms -/

/-- Only sets have members. -/
theorem exists_set_of_form {xs : List Value} (form : v.form = .members xs) :
    ∃ frozen, v = .set frozen xs := by
  cases v with
  | set frozen _ =>
      cases form
      exact ⟨frozen, rfl⟩
  | expr e => cases e <;> cases form
  | _ => cases form

theorem form_of_quantity? {q : Quantity} (number : v.quantity? = some q) : v.form = .atom := by
  cases v <;> first | rfl | cases number

/-- Only atoms are equal as atoms. -/
theorem equalPlain_of_not_atom (compound : v.form ≠ .atom ∨ w.form ≠ .atom) :
    v.equalPlain w = .ok false := by
  unfold Value.equalPlain
  split
  all_goals try (simp [Value.form] at compound; done)
  -- a complex number on the left, one on the right, and no complex number
  · split
    · rename_i number
      exact compound.elim (absurd rfl) (absurd (form_of_quantity? number))
    · rfl
  · split
    · rename_i number
      exact compound.elim (absurd (form_of_quantity? number)) (absurd rfl)
    · rfl
  · split
    · rename_i left right
      exact compound.elim (absurd (form_of_quantity? left)) (absurd (form_of_quantity? right))
    · rfl

theorem Expr.form_kind (e : Expr) : e.form.kind = .ordered := by
  cases e <;> rfl

/-- Values of different forms, and atoms, are compared as atoms. -/
theorem equal_of_unlike (unlike : v.form.kind ≠ w.form.kind ∨ v.form = .atom) :
    v.equal w = match v.refusal?, w.refusal? with
      | some f, _ => .error f
      | none, some f => .error f
      | none, none => v.equalPlain w := by
  unfold Value.equal
  split
  all_goals try (simp [Value.form, Form.kind] at unlike; done)
  · rename_i e f
    rcases unlike with kinds | atom
    · exact absurd ((Expr.form_kind e).trans (Expr.form_kind f).symm) kinds
    · exact absurd (congrArg Form.kind atom) (by rw [Value.form, Expr.form_kind]; decide)
  · rfl

/-- Values of different forms are not equal. -/
theorem equal_false_of_unlike (unlike : v.form.kind ≠ w.form.kind) (calm : v.refusal? = none)
    (calm' : w.refusal? = none) : v.equal w = .ok false := by
  rw [equal_of_unlike (.inl unlike), calm, calm']
  refine equalPlain_of_not_atom ?_
  by_contra atoms
  simp only [ne_eq, not_or, not_not] at atoms
  exact unlike (by rw [atoms.1, atoms.2])

/-- Equal values have forms of one kind. -/
theorem kind_eq_of_equal (equal : v.equal w = .ok true) : v.form.kind = w.form.kind := by
  by_contra unlike
  cases left : v.refusal? with
  | some f => rw [equal_of_unlike (.inl unlike), left] at equal; cases equal
  | none =>
      cases right : w.refusal? with
      | some f => rw [equal_of_unlike (.inl unlike), left, right] at equal; cases equal
      | none => rw [equal_false_of_unlike unlike left right] at equal; cases equal

theorem exists_ordered_of_equal {s : Shape} {xs : List Value} (form : v.form = .ordered s xs)
    (equal : v.equal w = .ok true) : ∃ ys, w.form = .ordered s ys ∧ equalItems xs ys = .ok true := by
  have kind := kind_eq_of_equal equal
  rw [form] at kind
  cases form' : w.form with
  | ordered t ys =>
      rw [equal_ordered form form'] at equal
      split at equal
      · rename_i shape
        exact ⟨ys, by rw [shape], equal⟩
      · cases equal
  | _ => rw [form'] at kind; cases kind

theorem exists_members_of_equal {xs : List Value} (form : v.form = .members xs)
    (equal : v.equal w = .ok true) :
    ∃ ys, w.form = .members ys ∧ xs.length = ys.length ∧ equalMembers xs ys = .ok true := by
  have kind := kind_eq_of_equal equal
  rw [form] at kind
  cases form' : w.form with
  | members ys =>
      rw [equal_members form form'] at equal
      split at equal
      · exact ⟨ys, rfl, ‹_›, equal⟩
      · cases equal
  | _ => rw [form'] at kind; cases kind

/-- Atoms are equal as atoms. -/
theorem equal_atom (atom : v.form = .atom) (calm : v.refusal? = none) (calm' : w.refusal? = none) :
    v.equal w = v.equalPlain w := by
  rw [equal_of_unlike (.inr atom), calm, calm']

theorem kind_eq_of_identical (identical : v.identical w = true) : v.form.kind = w.form.kind := by
  unfold Value.identical at identical
  split at identical
  all_goals first | rfl | cases identical

/-- Only atoms refuse comparisons. -/
theorem refusal?_eq_none (compound : v.form ≠ .atom) : v.refusal? = none := by
  cases v with
  | record r => exact absurd rfl compound
  | _ => rfl

end Forms

end RecordRules
