import RecordRules.Proofs.Predicate.Ordering

/-!
Numbers in comparisons.

An integer of any size, a truth value, a finite binary number and a finite decimal number each are
an exact rational number (`Value.rational?`), and the predicates that compare them answer as the
rational numbers are ordered (`Relation.test_numbers`, `Builtin.test_eql_numbers`). Nothing is
rounded on the way, also where numbers of different kinds meet. So they order numbers totally:
`Builtin.compare_numbers`.
-/

namespace RecordRules

open Number

namespace Value

/-- The rational number that a finite number is: a binary number is its mantissa times a power of
two, a decimal one its coefficient times a power of ten, and a truth value is one or zero. -/
def rational? : Value → Option ℚ
  | .bool b => some (if b then 1 else 0)
  | .int i => some i
  | .float _ (.finite negative m e) => some ((if negative then -(m : ℚ) else m) * 2 ^ e)
  | .decimal _ (.finite negative c e) => some ((if negative then -(c : ℚ) else c) * 10 ^ e)
  | _ => Option.none

section Numbers

variable {v w : Value} {x y : ℚ} {p q : Quantity}

/-- The fraction that a finite number is compared as denotes that number. -/
theorem exists_scaled (number : v.rational? = some x) :
    ∃ s : Scaled, v.quantity? = some (.finite s) ∧ s.toRat = x := by
  unfold rational? at number
  split at number
  · rename_i b
    cases number
    refine ⟨_, rfl, (Scaled.toRat_ofInt _).trans ?_⟩
    cases b <;> rfl
  · cases number
    exact ⟨_, rfl, Scaled.toRat_ofInt _⟩
  · rename_i negative m e
    cases number
    refine ⟨_, rfl, (Scaled.toRat_ofBinary _ _).trans ?_⟩
    cases negative <;> push_cast <;> rfl
  · rename_i negative c e
    cases number
    refine ⟨_, rfl, ?_⟩
    rw [Scaled.toRat]
    cases negative <;> push_cast <;> rfl
  · cases number

theorem equal_number (left : v.quantity? = some p) (right : w.quantity? = some q) :
    v.equal w = p.equal q := by
  cases v <;> cases left <;> cases w <;> cases right <;> rfl

theorem isMissing_of_quantity? (number : v.quantity? = some p) : v.isMissing = false := by
  cases v <;> first | rfl | cases number

end Numbers

end Value

section Numbers

variable {v w : Value} {x y : ℚ}

/-- A predicate that asks for an order answers by the order of the rational numbers. -/
theorem Relation.test_numbers (r : Relation) (left : v.rational? = some x)
    (right : w.rational? = some y) : r.builtin.test v [w] = .ok (r.holds (compare x y)) := by
  obtain ⟨s, number, rfl⟩ := Value.exists_scaled left
  obtain ⟨t, number', rfl⟩ := Value.exists_scaled right
  have ordered : v.ordered r w = .ok (r.holds (s.compare t)) := by
    rw [Value.ordered_number number number']
    simp [Quantity.isNan, Quantity.compare?]
  rw [test_builtin_of_present (Value.isMissing_of_quantity? number), ordered, Scaled.compare_eq]
  rfl

/-- Finite numbers are equal when they are the same rational number. -/
theorem Builtin.test_eql_numbers (left : v.rational? = some x) (right : w.rational? = some y) :
    Builtin.eql.test v [w] = .ok (decide (x = y)) := by
  obtain ⟨s, number, rfl⟩ := Value.exists_scaled left
  obtain ⟨t, number', rfl⟩ := Value.exists_scaled right
  have asked : Builtin.eql.test v [w] = v.equal w :=
    if_neg (Bool.eq_false_iff.mp (Value.isMissing_of_quantity? number))
  have same : (some (s.compare t) == some .eq) = decide (s.toRat = t.toRat) := by
    rw [Bool.eq_iff_iff, beq_iff_eq, Option.some.injEq, Scaled.compare_eq_eq, decide_eq_true_eq]
  rw [asked, Value.equal_number number number', Quantity.equal]
  exact congrArg Except.ok same

end Numbers

namespace Relation

/-- The relation of two rational numbers. -/
def Relates : Relation → ℚ → ℚ → Prop
  | .lt, x, y => x < y
  | .le, x, y => x ≤ y
  | .gt, x, y => y < x
  | .ge, x, y => y ≤ x

variable {v w : Value} {x y : ℚ}

theorem holds_compare (r : Relation) : r.holds (compare x y) = true ↔ r.Relates x y := by
  cases r with
  | lt => rw [holds, beq_iff_eq, compare_lt_iff_lt, Relates]
  | le => rw [holds, bne_iff_ne, ne_eq, compare_gt_iff_gt, not_lt, Relates]
  | gt => rw [holds, beq_iff_eq, compare_gt_iff_gt, Relates]
  | ge => rw [holds, bne_iff_ne, ne_eq, compare_lt_iff_lt, not_lt, Relates]

theorem passes_iff (r : Relation) (left : v.rational? = some x) (right : w.rational? = some y) :
    v.Passes r.builtin [w] ↔ r.Relates x y := by
  rw [Value.Passes, r.test_numbers left right, Except.ok.injEq, holds_compare]

end Relation

namespace Builtin

section Numbers

variable {a b c : Value} {x y z : ℚ}

theorem passes_eql_iff (left : a.rational? = some x) (right : b.rational? = some y) :
    a.Passes .eql [b] ↔ x = y := by
  rw [Value.Passes, test_eql_numbers left right, Except.ok.injEq, decide_eq_true_eq]

/-- **Numbers are in one exact order.** About any finite numbers, of whatever kinds and however
large, the predicates that compare them come to an answer, and it is that of the rational numbers.
So exactly one of less, equal and greater is the case, the weak orders are the strict ones or
equality, each order is the other one read from the right, and the order is transitive. -/
theorem compare_numbers (first : a.rational? = some x) (second : b.rational? = some y)
    (third : c.rational? = some z) :
    (∀ r : Relation, ∃ answer, r.builtin.test a [b] = .ok answer ∧
      (answer = true ↔ r.Relates x y)) ∧
    Builtin.eql.test a [b] = .ok (decide (x = y)) ∧
    (∃! p, p ∈ [Builtin.lt, .eql, .gt] ∧ a.Passes p [b]) ∧
    (a.Passes .gteq [b] ↔ a.Passes .gt [b] ∨ a.Passes .eql [b]) ∧
    (a.Passes .lteq [b] ↔ a.Passes .lt [b] ∨ a.Passes .eql [b]) ∧
    (a.Passes .lt [b] ↔ b.Passes .gt [a]) ∧
    (a.Passes .lteq [b] → b.Passes .lteq [c] → a.Passes .lteq [c]) := by
  have less : a.Passes .lt [b] ↔ x < y := Relation.lt.passes_iff first second
  have greater : a.Passes .gt [b] ↔ y < x := Relation.gt.passes_iff first second
  have same : a.Passes .eql [b] ↔ x = y := passes_eql_iff first second
  refine ⟨fun r => ?_, test_eql_numbers first second, ?_, ?_, ?_, ?_, ?_⟩
  · exact ⟨_, r.test_numbers first second, r.holds_compare⟩
  · simp only [ExistsUnique, List.mem_cons, List.not_mem_nil, or_false]
    rcases lt_trichotomy x y with order | order | order
    · refine ⟨.lt, ⟨.inl rfl, less.mpr order⟩, ?_⟩
      rintro p ⟨rfl | rfl | rfl, passes⟩
      · rfl
      · exact absurd (same.mp passes) order.ne
      · exact absurd (greater.mp passes) order.asymm
    · refine ⟨.eql, ⟨.inr (.inl rfl), same.mpr order⟩, ?_⟩
      rintro p ⟨rfl | rfl | rfl, passes⟩
      · exact absurd order (less.mp passes).ne
      · rfl
      · exact absurd order (greater.mp passes).ne'
    · refine ⟨.gt, ⟨.inr (.inr rfl), greater.mpr order⟩, ?_⟩
      rintro p ⟨rfl | rfl | rfl, passes⟩
      · exact absurd (less.mp passes) order.asymm
      · exact absurd (same.mp passes) order.ne'
      · rfl
  · rw [greater, same, eq_comm]
    exact (Relation.ge.passes_iff first second).trans le_iff_lt_or_eq
  · rw [less, same]
    exact (Relation.le.passes_iff first second).trans le_iff_lt_or_eq
  · exact less.trans (Relation.gt.passes_iff second first).symm
  · intro low high
    have xy : x ≤ y := (Relation.le.passes_iff first second).mp low
    have yz : y ≤ z := (Relation.le.passes_iff second third).mp high
    exact (Relation.le.passes_iff first third).mpr (xy.trans yz)

end Numbers

/-- Three neighbours around the largest integers that binary numbers are exact about: a binary
number, a decimal half above it, and the next integer. -/
theorem compare_numbers_neighbours :
    let binary := Value.float 0 (.finite false (2 ^ 52) 1)
    let half := Value.decimal 1 (.finite false 90071992547409925 (-1))
    let integer := Value.int (2 ^ 53 + 1)
    binary.Passes .lteq [half] ∧ half.Passes .lteq [integer] ∧ binary.Passes .lteq [integer] ∧
      (∃! p, p ∈ [Builtin.lt, .eql, .gt] ∧ binary.Passes p [half]) := by
  intro binary half integer
  have order := compare_numbers (a := binary) (b := half) (c := integer) rfl rfl rfl
  obtain ⟨-, -, unique, -, -, -, transitive⟩ := order
  have low : binary.Passes .lteq [half] := rfl
  have high : half.Passes .lteq [integer] := rfl
  exact ⟨low, high, transitive low high, unique⟩

end Builtin

end RecordRules
