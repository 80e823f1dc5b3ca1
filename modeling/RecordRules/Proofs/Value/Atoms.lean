import RecordRules.Proofs.Number.Exact
import RecordRules.Proofs.Value.Comparison
import RecordRules.Proofs.Value.Form

/-!
When atoms are the same.

What equality looks at in an atom is its essence: the exact parts of a number, the characters of
text, the instant of a moment, the numbers that a range produces, what identifies an object. Two
atoms are the same if they have one essence, or if they are one and the same (`SameAtom`): a value
that is not a number has no essence, and is only the same as itself. Identity or equality finds
exactly these pairs (`same_iff_sameAtom`).
-/

namespace RecordRules

open Number Calendar

/-- What equality looks at in an atom. -/
inductive Essence where
  | number (re im : Exact)
  | text (s : String)
  | bytes (content : List UInt8)
  | date (ordinal : Int)
  | moment (offset : Bool) (instant : Int)
  | time (offset : Bool) (instant : Int)
  | range (length : Nat) (start step : Int)
  | regex (source : String) (flags : Pattern.Flags)
  | record (tag : Nat)
  | mapping (tag : Nat)
  | fault (text : String)
  | builtin (tag : Nat)
  | custom (tag : Nat)
  | validatorClass (name : String)
  | validator (tag : Nat)

/-- The essence of a range: of its start and its step only what its numbers show. -/
def rangeEssence (start stop step : Int) : Essence :=
  let n := rangeLength start stop step
  .range n (if n = 0 then 0 else start) (if n ≤ 1 then 0 else step)

/-- The essence of a real number, unless it is not a number. -/
def Quantity.essence? (q : Quantity) : Option Essence :=
  q.toExact?.map fun x => .number x (.finite 0)

/-- The essence of a complex number, unless a part of it is not a number. -/
def complexEssence? (re im : Binary) : Option Essence := do
  return .number (← (Quantity.ofBinary re).toExact?) (← (Quantity.ofBinary im).toExact?)

/-- The essence of an atom, if it has one. -/
def Value.essence? : Value → Option Essence
  | .bool b => (Quantity.finite (Scaled.ofInt (if b then 1 else 0))).essence?
  | .int i => (Quantity.finite (Scaled.ofInt i)).essence?
  | .float _ x => (Quantity.ofBinary x).essence?
  | .decimal _ x => (Quantity.ofDecimal x).essence?
  | .complex _ re im => complexEssence? re im
  | .text label => some (.text label.text)
  | .bytes _ content => some (.bytes content)
  | .date d => some (.date d.ordinal)
  | .moment m => some (.moment m.time.offset.isSome m.instant)
  | .time t => some (.time t.offset.isSome t.instant)
  | .range start stop step => some (rangeEssence start stop step)
  | .regex p => some (.regex p.source p.flags)
  | .record r => some (.record r.tag)
  | .mapping m => some (.mapping m.tag)
  | .fault f => some (.fault (f.write .literal))
  | .predicate (.builtin tag _) => some (.builtin tag)
  | .predicate (.custom tag _ _ _) => some (.custom tag)
  | .validatorClass name _ _ => some (.validatorClass name)
  | .validator tag _ _ _ _ => some (.validator tag)
  | _ => Option.none

/-- Two atoms, or two mappings, are the same. -/
inductive SameAtom : Value → Value → Prop where
  | itself {v : Value} (atom : v.form = .atom) : SameAtom v v
  | essence {v w : Value} {x : Essence} (left : v.essence? = some x) (right : w.essence? = some x) :
      SameAtom v w

/-- Only atoms and mappings have an essence. -/
theorem Value.atom_of_essence? {v : Value} {x : Essence} (h : v.essence? = some x) :
    v.form = .atom ∨ ∃ m, v = .mapping m := by
  cases v with
  | mapping m => exact .inr ⟨m, rfl⟩
  | list | tuple | set | dict | expr | rule | ruleSet | error | errorSet | result => cases h
  | _ => exact .inl rfl

namespace SameAtom

variable {u v w : Value}

theorem form_left (same : SameAtom v w) : v.form = .atom ∨ ∃ m, v = .mapping m := by
  cases same with
  | itself atom => exact .inl atom
  | essence left _ => exact Value.atom_of_essence? left

theorem of_eq {x : Essence} (known : v.essence? = some x) (same : v.essence? = w.essence?) :
    SameAtom v w :=
  .essence known (same.symm.trans known)

theorem symm (same : SameAtom v w) : SameAtom w v := by
  cases same with
  | itself atom => exact .itself atom
  | essence left right => exact .essence right left

theorem trans (first : SameAtom u v) (second : SameAtom v w) : SameAtom u w := by
  cases first with
  | itself => exact second
  | essence left right =>
      cases second with
      | itself => exact .essence left right
      | essence left' right' =>
          cases right.symm.trans left'
          exact .essence left right'

end SameAtom

/-- Ranges are equal when they have one essence. -/
theorem rangeEqual_iff {a b c a' b' c' : Int} :
    rangeEqual a b c a' b' c' = true ↔ rangeEssence a b c = rangeEssence a' b' c' := by
  simp only [rangeEqual, rangeEssence, Bool.and_eq_true, Bool.or_eq_true, beq_iff_eq,
    Essence.range.injEq]
  constructor
  · rintro ⟨length, numbers⟩
    rw [← length]
    rcases numbers with empty | ⟨rfl, single | rfl⟩
    · simp [empty]
    · simp [single]
    · simp
  · rintro ⟨length, start, step⟩
    rw [← length] at start step
    refine ⟨length, ?_⟩
    by_cases empty : rangeLength a b c = 0
    · exact .inl empty
    · rw [if_neg empty, if_neg empty] at start
      by_cases single : rangeLength a b c = 1
      · exact .inr ⟨start, .inl single⟩
      · have several : ¬ rangeLength a b c ≤ 1 := by omega
        rw [if_neg several, if_neg several] at step
        exact .inr ⟨start, .inr step⟩

/-! ### Numbers -/

section Numbers

variable {v w : Value}

theorem essence?_of_quantity? {q : Quantity} (number : v.quantity? = some q) :
    v.essence? = q.essence? := by
  cases v <;> cases number <;> rfl

/-- Quantities are equal when they have one essence. -/
theorem compare?_eq_iff_essence? {p q : Quantity} :
    p.compare? q = some .eq ↔ ∃ x, p.essence? = some x ∧ q.essence? = some x := by
  rw [Quantity.compare?_eq_some_eq]
  constructor
  · rintro ⟨x, left, right⟩
    exact ⟨.number x (.finite 0), by rw [Quantity.essence?, left]; rfl,
      by rw [Quantity.essence?, right]; rfl⟩
  · rintro ⟨x, left, right⟩
    obtain ⟨a, left', rfl⟩ := Option.map_eq_some_iff.mp left
    obtain ⟨b, right', same⟩ := Option.map_eq_some_iff.mp right
    cases same
    exact ⟨a, left', right'⟩

theorem Quantity.number_of_essence? {q : Quantity} {x : Essence} (h : q.essence? = some x) :
    ∃ a, x = .number a (.finite 0) := by
  obtain ⟨a, -, rfl⟩ := Option.map_eq_some_iff.mp h
  exact ⟨a, rfl⟩

theorem complexEssence?_eq_some {re im : Binary} {x : Essence} :
    complexEssence? re im = some x ↔ ∃ a b, (Quantity.ofBinary re).toExact? = some a ∧
      (Quantity.ofBinary im).toExact? = some b ∧ x = .number a b := by
  constructor
  · intro h
    obtain ⟨a, left, h⟩ := Option.bind_eq_some_iff.mp h
    obtain ⟨b, right, h⟩ := Option.bind_eq_some_iff.mp h
    exact ⟨a, b, left, right, (Option.some.inj h).symm⟩
  · rintro ⟨a, b, left, right, rfl⟩
    rw [complexEssence?, left, right]
    rfl

theorem complexEqual_iff {re im re' im' : Binary} :
    complexEqual re im re' im' = true ↔
      ∃ x, complexEssence? re im = some x ∧ complexEssence? re' im' = some x := by
  simp only [complexEqual, Bool.and_eq_true, beq_iff_eq, Quantity.compare?_eq_some_eq,
    complexEssence?_eq_some]
  constructor
  · rintro ⟨⟨a, re, re'⟩, b, im, im'⟩
    exact ⟨.number a b, ⟨a, b, re, im, rfl⟩, a, b, re', im', rfl⟩
  · rintro ⟨_, ⟨a, b, re, im, rfl⟩, a', b', re', im', same⟩
    cases same
    exact ⟨⟨a, re, re'⟩, b, im, im'⟩

theorem Quantity.equal_eq_true {p q : Quantity} :
    p.equal q = .ok true ↔ ∃ x, p.essence? = some x ∧ q.essence? = some x := by
  rw [← compare?_eq_iff_essence?, Quantity.equal]
  by_cases signaling : (p.isSignaling || q.isSignaling) = true
  · rw [if_pos signaling]
    refine iff_of_false (by rintro ⟨⟩) fun same => ?_
    cases p <;> cases q <;> simp [isSignaling] at signaling <;> cases same
  · rw [if_neg signaling, Except.ok.injEq, beq_iff_eq]

theorem complexRealEqual_iff {re im : Binary} {q : Quantity} :
    complexRealEqual re im q = .ok true ↔
      ∃ x, complexEssence? re im = some x ∧ q.essence? = some x := by
  unfold complexRealEqual
  constructor
  · intro h
    split at h
    · rename_i zero
      obtain ⟨x, left, right⟩ := Quantity.equal_eq_true.mp h
      obtain ⟨a, re, rfl⟩ := Option.map_eq_some_iff.mp left
      exact ⟨_, complexEssence?_eq_some.mpr ⟨a, _, re, Binary.isZero_iff.mp zero, rfl⟩, right⟩
    · cases h
  · rintro ⟨x, left, right⟩
    obtain ⟨a, b, re, im, rfl⟩ := complexEssence?_eq_some.mp left
    obtain ⟨c, exact, same⟩ := Option.map_eq_some_iff.mp right
    cases same
    rw [if_pos (Binary.isZero_iff.mpr im)]
    exact Quantity.equal_eq_true.mpr ⟨_, by rw [Quantity.essence?, re]; rfl, right⟩

end Numbers

/-! ### Identity and equality -/

section Same

variable {v w : Value}

theorem sameAtom_of_identical (identical : v.identical w = true) : SameAtom v w := by
  unfold Value.identical at identical
  split at identical
  all_goals try simp only [Bool.and_eq_true, beq_iff_eq] at identical
  · exact .itself rfl
  · exact .itself rfl
  · obtain ⟨rfl, rfl⟩ := identical
    exact .itself rfl
  · obtain ⟨rfl, rfl⟩ := identical
    exact .itself rfl
  · obtain ⟨⟨rfl, rfl⟩, rfl⟩ := identical
    exact .itself rfl
  · exact .of_eq rfl (by simp only [Value.essence?, identical])
  · exact .of_eq rfl (by simp only [Value.essence?, identical])
  · cases identical

theorem sameAtom_of_moment {m n : Moment} (equal : m.compare? n = some .eq) :
    SameAtom (.moment m) (.moment n) := by
  unfold Moment.compare? at equal
  split at equal
  · rename_i offset
    have same := Std.compare_eq_iff_eq.mp (Option.some.inj equal)
    exact .of_eq rfl (by simp only [Value.essence?, offset, same])
  · cases equal

theorem sameAtom_of_time {t u : Time} (equal : t.compare? u = some .eq) :
    SameAtom (.time t) (.time u) := by
  unfold Time.compare? at equal
  split at equal
  · rename_i offset
    have same := Std.compare_eq_iff_eq.mp (Option.some.inj equal)
    exact .of_eq rfl (by simp only [Value.essence?, offset, same])
  · cases equal

theorem sameAtom_of_equalPlain (equal : v.equalPlain w = .ok true) : SameAtom v w := by
  unfold Value.equalPlain at equal
  split at equal
  all_goals try simp only [Except.ok.injEq, Bool.and_eq_true, beq_iff_eq] at equal
  · exact .itself rfl
  · exact .itself rfl
  · exact .of_eq rfl (by simp only [Value.essence?, equal])
  · exact .of_eq rfl (by simp only [Value.essence?, equal])
  · have same := Std.compare_eq_iff_eq.mp equal
    exact .of_eq rfl (by simp only [Value.essence?, same])
  · exact sameAtom_of_moment equal
  · exact sameAtom_of_time equal
  · obtain ⟨x, left, right⟩ := complexEqual_iff.mp equal
    exact .essence left right
  · exact .of_eq rfl (congrArg some (rangeEqual_iff.mp equal))
  · exact equal ▸ .itself rfl
  · exact .of_eq rfl (by simp only [Value.essence?, equal.1, equal.2])
  · exact .of_eq rfl (by simp only [Value.essence?, equal])
  · exact equal ▸ .itself rfl
  · exact .of_eq rfl (by simp only [Value.essence?, equal])
  · exact .of_eq rfl (by simp only [Value.essence?, equal])
  · exact .of_eq rfl (by simp only [Value.essence?, equal])
  · exact equal ▸ .itself rfl
  · exact equal ▸ .itself rfl
  · exact equal ▸ .itself rfl
  · exact equal ▸ .itself rfl
  · exact .of_eq rfl (by simp only [Value.essence?, equal])
  · exact .of_eq rfl (by simp only [Value.essence?, equal])
  -- a complex number on the left, one on the right, and no complex number
  · split at equal
    · rename_i number
      obtain ⟨x, left, right⟩ := complexRealEqual_iff.mp equal
      exact .essence left ((essence?_of_quantity? number).trans right)
    · cases equal
  · split at equal
    · rename_i number
      obtain ⟨x, left, right⟩ := complexRealEqual_iff.mp equal
      exact .essence ((essence?_of_quantity? number).trans right) left
    · cases equal
  · split at equal
    · rename_i left right
      obtain ⟨x, hleft, hright⟩ := Quantity.equal_eq_true.mp equal
      exact .essence ((essence?_of_quantity? left).trans hleft)
        ((essence?_of_quantity? right).trans hright)
    · cases equal

/-- The values that have some essence. -/
def Essence.Bears (x : Essence) (w : Value) : Prop :=
  match x with
  | .number _ _ => (∃ q, w.quantity? = some q) ∨ ∃ tag re im, w = .complex tag re im
  | .text s => ∃ label, w = .text label ∧ label.text = s
  | .bytes content => ∃ mutable, w = .bytes mutable content
  | .date n => ∃ d, w = .date d ∧ d.ordinal = n
  | .moment o i => ∃ m, w = .moment m ∧ m.time.offset.isSome = o ∧ m.instant = i
  | .time o i => ∃ t, w = .time t ∧ t.offset.isSome = o ∧ t.instant = i
  | .range n a c => ∃ start stop step, w = .range start stop step ∧
      rangeEssence start stop step = .range n a c
  | .regex s f => ∃ p, w = .regex p ∧ p.source = s ∧ p.flags = f
  | .record tag => ∃ r, w = .record r ∧ r.tag = tag
  | .mapping tag => ∃ m, w = .mapping m ∧ m.tag = tag
  | .fault s => ∃ f, w = .fault f ∧ f.write .literal = s
  | .builtin tag => ∃ b, w = .predicate (.builtin tag b)
  | .custom tag => ∃ name f arity, w = .predicate (.custom tag name f arity)
  | .validatorClass name => ∃ rules c, w = .validatorClass name rules c
  | .validator tag => ∃ name rules c record, w = .validator tag name rules c record

theorem Essence.bears_of_essence? {x : Essence} (h : w.essence? = some x) : x.Bears w := by
  cases w with
  | bool | int | float | decimal =>
      obtain ⟨a, rfl⟩ := Quantity.number_of_essence? h
      exact .inl ⟨_, rfl⟩
  | complex tag re im =>
      obtain ⟨a, b, -, -, rfl⟩ := complexEssence?_eq_some.mp h
      exact .inr ⟨tag, re, im, rfl⟩
  | text label => cases h; exact ⟨label, rfl, rfl⟩
  | bytes mutable content => cases h; exact ⟨mutable, rfl⟩
  | date d => cases h; exact ⟨d, rfl, rfl⟩
  | moment m => cases h; exact ⟨m, rfl, rfl, rfl⟩
  | time t => cases h; exact ⟨t, rfl, rfl, rfl⟩
  | range start stop step => cases h; exact ⟨start, stop, step, rfl, rfl⟩
  | regex p => cases h; exact ⟨p, rfl, rfl, rfl⟩
  | record r => cases h; exact ⟨r, rfl, rfl⟩
  | mapping m => cases h; exact ⟨m, rfl, rfl⟩
  | fault f => cases h; exact ⟨f, rfl, rfl⟩
  | predicate p =>
      cases p with
      | builtin tag b => cases h; exact ⟨b, rfl⟩
      | custom tag name f arity => cases h; exact ⟨name, f, arity, rfl⟩
  | validatorClass name rules c => cases h; exact ⟨rules, c, rfl⟩
  | validator tag name rules c record => cases h; exact ⟨name, rules, c, record, rfl⟩
  | _ => cases h

theorem equalPlain_of_number {a b : Exact} (left : v.essence? = some (.number a b))
    (right : w.essence? = some (.number a b)) : v.equalPlain w = .ok true := by
  rcases Essence.bears_of_essence? left with ⟨p, number⟩ | ⟨tag, re, im, rfl⟩
  · rw [essence?_of_quantity? number] at left
    rcases Essence.bears_of_essence? right with ⟨q, number'⟩ | ⟨tag', re', im', rfl⟩
    · rw [essence?_of_quantity? number'] at right
      have equal : p.equal q = .ok true := Quantity.equal_eq_true.mpr ⟨_, left, right⟩
      cases v <;> cases number <;> cases w <;> cases number' <;> exact equal
    · have equal := complexRealEqual_iff.mpr ⟨_, right, left⟩
      cases v <;> cases number <;> exact equal
  · rcases Essence.bears_of_essence? right with ⟨q, number'⟩ | ⟨tag', re', im', rfl⟩
    · rw [essence?_of_quantity? number'] at right
      have equal := complexRealEqual_iff.mpr ⟨_, left, right⟩
      cases w <;> cases number' <;> exact equal
    · exact congrArg Except.ok (complexEqual_iff.mpr ⟨_, left, right⟩)

/-- Atoms with one essence are equal. -/
theorem equalPlain_of_essence {x : Essence} (atom : v.form = .atom) (left : v.essence? = some x)
    (right : w.essence? = some x) : v.equalPlain w = .ok true := by
  have hv := Essence.bears_of_essence? left
  have hw := Essence.bears_of_essence? right
  cases x with
  | number a b => exact equalPlain_of_number left right
  | text s =>
      obtain ⟨label, rfl, rfl⟩ := hv
      obtain ⟨label', rfl, same⟩ := hw
      exact congrArg Except.ok (beq_iff_eq.mpr same.symm)
  | bytes content =>
      obtain ⟨m, rfl⟩ := hv
      obtain ⟨n, rfl⟩ := hw
      exact congrArg Except.ok (beq_self_eq_true content)
  | date n =>
      obtain ⟨d, rfl, rfl⟩ := hv
      obtain ⟨e, rfl, same⟩ := hw
      exact congrArg Except.ok (beq_iff_eq.mpr (Std.compare_eq_iff_eq.mpr same.symm))
  | moment o i =>
      obtain ⟨m, rfl, rfl, rfl⟩ := hv
      obtain ⟨n, rfl, offset, instant⟩ := hw
      refine congrArg Except.ok (beq_iff_eq.mpr ?_)
      rw [Moment.compare?, if_pos offset.symm, instant, Std.compare_self]
  | time o i =>
      obtain ⟨t, rfl, rfl, rfl⟩ := hv
      obtain ⟨u, rfl, offset, instant⟩ := hw
      refine congrArg Except.ok (beq_iff_eq.mpr ?_)
      rw [Time.compare?, if_pos offset.symm, instant, Std.compare_self]
  | range n a c =>
      obtain ⟨start, stop, step, rfl, same⟩ := hv
      obtain ⟨start', stop', step', rfl, same'⟩ := hw
      exact congrArg Except.ok (rangeEqual_iff.mpr (same.trans same'.symm))
  | regex s f =>
      obtain ⟨p, rfl, rfl, rfl⟩ := hv
      obtain ⟨q, rfl, source, flags⟩ := hw
      refine congrArg Except.ok ?_
      simp only [source, flags, beq_self_eq_true, Bool.and_self]
  | record tag =>
      obtain ⟨r, rfl, rfl⟩ := hv
      obtain ⟨s, rfl, same⟩ := hw
      exact congrArg Except.ok (beq_iff_eq.mpr same.symm)
  | mapping tag =>
      obtain ⟨m, rfl, rfl⟩ := hv
      cases atom
  | fault s =>
      obtain ⟨f, rfl, rfl⟩ := hv
      obtain ⟨g, rfl, same⟩ := hw
      exact congrArg Except.ok (beq_iff_eq.mpr same.symm)
  | builtin tag =>
      obtain ⟨b, rfl⟩ := hv
      obtain ⟨c, rfl⟩ := hw
      exact congrArg Except.ok (beq_self_eq_true tag)
  | custom tag =>
      obtain ⟨name, f, arity, rfl⟩ := hv
      obtain ⟨name', f', arity', rfl⟩ := hw
      exact congrArg Except.ok (beq_self_eq_true tag)
  | validatorClass name =>
      obtain ⟨rules, c, rfl⟩ := hv
      obtain ⟨rules', c', rfl⟩ := hw
      exact congrArg Except.ok (beq_self_eq_true name)
  | validator tag =>
      obtain ⟨name, rules, c, record, rfl⟩ := hv
      obtain ⟨name', rules', c', record', rfl⟩ := hw
      exact congrArg Except.ok (beq_self_eq_true tag)

theorem sameOr_of_essence {x : Essence} (left : v.essence? = some x)
    (right : w.essence? = some x) : sameOr v w v.equalPlain = .ok true := by
  unfold sameOr
  split
  · rfl
  · rename_i differ
    rcases Value.atom_of_essence? left with atom | ⟨m, rfl⟩
    · exact equalPlain_of_essence atom left right
    · cases left
      obtain ⟨n, rfl, tag⟩ := Essence.bears_of_essence? right
      exact absurd (beq_iff_eq.mpr tag.symm) differ

/-- An atom is the same as itself. -/
theorem sameOr_self (atom : v.form = .atom) : sameOr v v v.equalPlain = .ok true := by
  cases v with
  | none | absent => rfl
  | float tag x => simp [sameOr, Value.identical]
  | decimal tag x => simp [sameOr, Value.identical]
  | complex tag re im => simp [sameOr, Value.identical]
  | type c => exact congrArg Except.ok (beq_self_eq_true c)
  | function f => exact congrArg Except.ok (beq_self_eq_true f)
  | config c => exact congrArg Except.ok (beq_self_eq_true c)
  | evaluator c => exact congrArg Except.ok (beq_self_eq_true c)
  | registry handle => exact congrArg Except.ok (beq_self_eq_true handle)
  | builder handle => exact congrArg Except.ok (beq_self_eq_true handle)
  | predicate p => cases p <;> exact sameOr_of_essence rfl rfl
  | bool | int | text | bytes | date | moment | time | range | regex | record | fault
  | validatorClass | validator => exact sameOr_of_essence rfl rfl
  | expr e => cases e <;> cases atom
  | _ => cases atom

/-- Identity, or equality as atoms, finds the atoms and the mappings that are the same. -/
theorem same_iff_sameAtom : sameOr v w v.equalPlain = .ok true ↔ SameAtom v w := by
  constructor
  · intro h
    unfold sameOr at h
    split at h
    · exact sameAtom_of_identical ‹_›
    · exact sameAtom_of_equalPlain h
  · intro same
    cases same with
    | itself atom => exact sameOr_self atom
    | essence left right => exact sameOr_of_essence left right

/-- An atom is the same as what identity or equality finds. -/
theorem sameAtom_of_same (atom : v.form = .atom) (same : v.same w = .ok true) : SameAtom v w := by
  unfold Value.same sameOr at same
  split at same
  · exact sameAtom_of_identical ‹_›
  · rw [equal_of_unlike (.inr atom)] at same
    split at same
    · cases same
    · cases same
    · exact sameAtom_of_equalPlain same

/-- Identity does not stand for the equality of values that are neither atoms nor mappings. -/
theorem same_eq_equal (noAtom : v.form.kind ≠ .atom) (noMapping : v.form.kind ≠ .entries) :
    v.same w = v.equal w := by
  refine if_neg fun identical => ?_
  rcases (sameAtom_of_identical identical).form_left with atom | ⟨m, rfl⟩
  · exact noAtom (congrArg Form.kind atom)
  · exact noMapping rfl

theorem exists_ordered_of_same {s : Shape} {xs : List Value} (form : v.form = .ordered s xs)
    (same : v.same w = .ok true) : ∃ ys, w.form = .ordered s ys ∧ equalItems xs ys = .ok true :=
  exists_ordered_of_equal form
    (same_eq_equal (by rw [form]; exact nofun) (by rw [form]; exact nofun) ▸ same)

theorem exists_members_of_same {xs : List Value} (form : v.form = .members xs)
    (same : v.same w = .ok true) :
    ∃ ys, w.form = .members ys ∧ xs.length = ys.length ∧ equalMembers xs ys = .ok true :=
  exists_members_of_equal form
    (same_eq_equal (by rw [form]; exact nofun) (by rw [form]; exact nofun) ▸ same)

end Same

end RecordRules
