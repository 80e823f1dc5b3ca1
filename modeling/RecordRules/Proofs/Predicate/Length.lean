import RecordRules.Proofs.Number.Exact
import RecordRules.Proofs.Predicate.Coercion
import RecordRules.Proofs.Predicate.Missing
import RecordRules.Proofs.Value.Range

/-!
The predicates about length.

`size?`, `min_size?` and `max_size?` ask for a length and test it, and a value without one fails
them (`Value.measured`). `filled?` and `empty?` ask for the same length, after they have looked at
what is missing and at text. So where asking for the length faults, all five fault alike, and
elsewhere their answers fit together: `Builtin.lengths_agree`.
-/

namespace RecordRules

open Number

theorem Number.Scaled.compare_ofInt (i j : Int) :
    (Scaled.ofInt i).compare (.ofInt j) = Ord.compare i j := by
  simp [Scaled.compare, Scaled.ofInt, Scaled.coefficientAt]

namespace Value

/-- A value has a length, and asking for it does not fault. -/
def HasLength (v : Value) (n : Nat) : Prop := v.length? = some (.ok n)

def LengthFaults (v : Value) (f : Fault) : Prop := v.length? = some (.error f)

/-- Whether a value has a length that passes a test. -/
def measured (v : Value) (test : Nat → Bool) : Except Fault Bool :=
  match v.length? with
  | Option.none => .ok false
  | some n => n.map test

section Length

variable {v : Value} {n m : Nat} {f : Fault} {test : Nat → Bool}

theorem length_cases (v : Value) :
    v.length? = Option.none ∨ (∃ n, v.HasLength n) ∨ ∃ f, v.LengthFaults f := by
  unfold HasLength LengthFaults
  rcases v.length? with _ | _ | _
  · exact .inl rfl
  · exact .inr (.inr ⟨_, rfl⟩)
  · exact .inr (.inl ⟨_, rfl⟩)

theorem HasLength.eq (first : v.HasLength n) (second : v.HasLength m) : n = m := by
  cases first.symm.trans second
  rfl

theorem measured_of_unsized (unsized : v.length? = Option.none) : v.measured test = .ok false := by
  rw [measured, unsized]

theorem measured_of_length (length : v.HasLength n) : v.measured test = .ok (test n) := by
  rw [measured, length]
  rfl

theorem measured_of_fault (faults : v.LengthFaults f) : v.measured test = .error f := by
  rw [measured, faults]
  rfl

theorem measured_eq_true_iff :
    v.measured test = .ok true ↔ ∃ n, v.HasLength n ∧ test n = true := by
  rcases v.length_cases with unsized | ⟨n, length⟩ | ⟨f, faults⟩
  · rw [measured_of_unsized unsized]
    exact iff_of_false nofun fun ⟨n, length, _⟩ => nomatch unsized.symm.trans length
  · rw [measured_of_length length, Except.ok.injEq]
    constructor
    · exact fun passes => ⟨n, length, passes⟩
    · rintro ⟨m, length', passes⟩
      exact length.eq length' ▸ passes
  · rw [measured_of_fault faults]
    exact iff_of_false nofun fun ⟨n, length, _⟩ => nomatch faults.symm.trans length

/-- Where asking for the length does not fault, testing it does not. -/
theorem measured_answers (answers : ∀ f, ¬ v.LengthFaults f) : Answers (v.measured test) := by
  rcases v.length_cases with unsized | ⟨n, length⟩ | ⟨f, faults⟩
  · exact ⟨_, measured_of_unsized unsized⟩
  · exact ⟨_, measured_of_length length⟩
  · exact absurd faults (answers f)

theorem isMissing_of_not_blank (filled : v.isBlank = false) : v.isMissing = false := by
  cases v <;> first | rfl | cases filled

/-- Only text is blank without being missing. -/
theorem isBlank_iff : v.isBlank = true ↔
    v.isMissing = true ∨ ∃ label, v = .text label ∧ Text.isBlankText label.text = true := by
  cases v <;> simp [isBlank, isMissing]

theorem equal_int (i j : Int) : (Value.int i).equal (.int j) = .ok (decide (i = j)) := by
  have same : (some (Ord.compare i j) == some .eq) = decide (i = j) := by
    rw [Bool.eq_iff_iff, beq_iff_eq, Option.some.injEq, Std.compare_eq_iff_eq, decide_eq_true_eq]
  rw [← same, ← Scaled.compare_ofInt]
  rfl

theorem ordered_int (r : Relation) (i j : Int) :
    (Value.int i).ordered r (.int j) = .ok (r.holds (compare i j)) := by
  rw [← Scaled.compare_ofInt]
  rfl

end Length

end Value

namespace Builtin

variable {v : Value}

theorem length_ne_zero_of_not_blank {label : Label} (filled : (Value.text label).isBlank = false) :
    label.text.length ≠ 0 := by
  intro none
  have empty : label.text = "" := by simpa using none
  rw [Value.isBlank, Text.isBlankText, empty] at filled
  cases filled

/-! ### What is tested of a length -/

theorem test_size_int (k : Int) :
    Builtin.size.test v [.int k] = v.measured fun n => decide ((n : Int) = k) := by
  rw [test, onlyParam, Except.ok_bind, hasSize, Value.measured]
  rcases v.length? with _ | _ | n
  · rfl
  · rfl
  · exact Value.equal_int n k

theorem test_size_range (start stop step : Int) :
    Builtin.size.test v [.range start stop step] =
      v.measured fun n => rangeHolds start stop step n := by
  rw [test, onlyParam, Except.ok_bind, hasSize, Value.measured]
  rcases v.length? with _ | _ | n <;> rfl

theorem sizeOrdered_int (r : Relation) (k : Int) :
    sizeOrdered r v [.int k] = v.measured fun n => r.holds (compare (n : Int) k) := by
  rw [sizeOrdered, Value.measured]
  rcases v.length? with _ | _ | n
  · rfl
  · rfl
  · exact Value.ordered_int r n k

theorem test_minSize_int (k : Int) :
    Builtin.minSize.test v [.int k] = v.measured fun n => decide (k ≤ (n : Int)) := by
  refine (sizeOrdered_int .ge k).trans (congrArg v.measured (funext fun n => ?_))
  rw [Bool.eq_iff_iff, Relation.holds, bne_iff_ne, decide_eq_true_eq, ne_eq, compare_lt_iff_lt,
    not_lt]

theorem test_maxSize_int (k : Int) :
    Builtin.maxSize.test v [.int k] = v.measured fun n => decide ((n : Int) ≤ k) := by
  refine (sizeOrdered_int .le k).trans (congrArg v.measured (funext fun n => ?_))
  rw [Bool.eq_iff_iff, Relation.holds, bne_iff_ne, decide_eq_true_eq, ne_eq, compare_gt_iff_gt,
    not_lt]

theorem test_empty_of_present (present : v.isMissing = false) :
    Builtin.empty.test v [] = v.measured (· == 0) := by
  rw [test, isEmpty, if_neg (Bool.eq_false_iff.mp present), Value.measured]
  rcases v.length? with _ | _ <;> rfl

/-- What is not blank is filled when it is not empty. -/
theorem test_filled_of_not_blank (filled : v.isBlank = false) :
    Builtin.filled.test v [] = (Builtin.empty.test v []).map (!·) := by
  rw [test, isFilled, if_neg (Bool.eq_false_iff.mp filled),
    test_empty_of_present (Value.isMissing_of_not_blank filled), Value.measured]
  by_cases isText : ∃ label, v = .text label
  · obtain ⟨label, rfl⟩ := isText
    have some : (label.text.length == 0) = false :=
      beq_eq_false_iff_ne.mpr (length_ne_zero_of_not_blank filled)
    exact congrArg (fun b => Except.ok !b) some.symm
  · have noText : v.text? = Option.none := by
      cases v with
      | text label => exact absurd ⟨label, rfl⟩ isText
      | _ => rfl
    rw [noText]
    rcases v.length? with _ | _ | n
    · rfl
    · rfl
    · refine congrArg Except.ok ?_
      rw [Bool.eq_iff_iff, decide_eq_true_eq, Bool.not_eq_true', beq_eq_false_iff_ne]
      exact Nat.pos_iff_ne_zero

theorem test_filled_of_blank (blank : v.isBlank = true) : Builtin.filled.test v [] = .ok false :=
  if_pos blank

/-! ### All of them together -/

/-- The questions about the length of a value, those that take sizes with some. -/
def lengthQuestions (size start stop step : Int) : List (Builtin × List Value) :=
  [(.size, [.int size]), (.size, [.range start stop step]), (.minSize, [.int size]),
    (.maxSize, [.int size]), (.filled, []), (.empty, [])]

section Agreement

variable {f : Fault} {size start stop step : Int}

/-- A question about the length is a test of it, or is about what is filled or empty. -/
theorem measured_of_mem {q : Builtin × List Value}
    (mem : q ∈ lengthQuestions size start stop step) :
    (∃ test, q.1.test v q.2 = v.measured test) ∨ q = (.filled, []) ∨ q = (.empty, []) := by
  simp only [lengthQuestions, List.mem_cons, List.not_mem_nil, or_false] at mem
  rcases mem with rfl | rfl | rfl | rfl | filledOrEmpty
  · exact .inl ⟨_, test_size_int size⟩
  · exact .inl ⟨_, test_size_range start stop step⟩
  · exact .inl ⟨_, test_minSize_int size⟩
  · exact .inl ⟨_, test_maxSize_int size⟩
  · exact .inr filledOrEmpty

/-- A fault of the length is the fault of every question about it. -/
theorem test_of_lengthFaults (faults : v.LengthFaults f) :
    ∀ q ∈ lengthQuestions size start stop step, q.1.test v q.2 = .error f := by
  have filled : v.isBlank = false := by
    cases v <;> first | rfl | cases faults
  have empty : Builtin.empty.test v [] = .error f := by
    rw [test_empty_of_present (Value.isMissing_of_not_blank filled),
      Value.measured_of_fault faults]
  intro q mem
  rcases measured_of_mem mem with ⟨test, asked⟩ | rfl | rfl
  · rw [asked, Value.measured_of_fault faults]
  · rw [test_filled_of_not_blank filled, empty]
    rfl
  · exact empty

/-- Where asking for the length does not fault, every question about it has an answer. -/
theorem test_answers_of_length (answers : ∀ f, ¬ v.LengthFaults f) :
    ∀ q ∈ lengthQuestions size start stop step, Answers (q.1.test v q.2) := by
  have empty : Answers (Builtin.empty.test v []) := by
    cases missing : v.isMissing with
    | true => exact ⟨true, if_pos missing⟩
    | false => exact test_empty_of_present missing ▸ Value.measured_answers answers
  intro q mem
  rcases measured_of_mem mem with ⟨test, asked⟩ | rfl | rfl
  · exact asked ▸ Value.measured_answers answers
  · cases blank : v.isBlank with
    | true => exact ⟨false, test_filled_of_blank blank⟩
    | false => exact test_filled_of_not_blank blank ▸ empty.map _
  · exact empty

theorem passes_bounds_iff {low high : Int} :
    v.Passes .minSize [.int low] ∧ v.Passes .maxSize [.int high] ↔
      ∃ n : Nat, v.HasLength n ∧ low ≤ n ∧ n ≤ high := by
  simp only [Value.Passes, test_minSize_int, test_maxSize_int, Value.measured_eq_true_iff,
    decide_eq_true_eq]
  constructor
  · rintro ⟨⟨n, length, above⟩, m, length', below⟩
    exact ⟨n, length, above, length.eq length' ▸ below⟩
  · rintro ⟨n, length, above, below⟩
    exact ⟨⟨n, length, above⟩, n, length, below⟩

theorem passes_maxSize_iff_fails_minSize (sized : v.length?.isSome = true)
    (answers : ∀ f, ¬ v.LengthFaults f) :
    v.Passes .maxSize [.int size] ↔ v.Fails .minSize [.int (size + 1)] := by
  obtain ⟨n, length⟩ : ∃ n, v.HasLength n := by
    rcases v.length_cases with unsized | length | ⟨f, faults⟩
    · rw [unsized] at sized
      cases sized
    · exact length
    · exact absurd faults (answers f)
  rw [Value.Passes, Value.Fails, test_maxSize_int, test_minSize_int,
    Value.measured_of_length length, Value.measured_of_length length, Except.ok.injEq,
    Except.ok.injEq, decide_eq_true_eq, decide_eq_false_iff_not]
  omega

theorem passes_range_iff (moves : step ≠ 0) :
    v.Passes .size [.range start stop step] ↔
      ∃ n : Nat, v.HasLength n ∧ ∃ i : Nat, (n : Int) = start + step * i ∧
        (0 < step → (n : Int) < stop) ∧ (step < 0 → stop < n) := by
  simp only [Value.Passes, test_size_range, Value.measured_eq_true_iff, rangeHolds_iff_steps moves]

theorem passes_empty_iff :
    v.Passes .empty [] ↔ v.Passes .none [] ∨ v.Passes .size [.int 0] := by
  have asked : Builtin.none.test v [] = .ok v.isMissing := rfl
  cases missing : v.isMissing with
  | true =>
      have empty : v.Passes .empty [] := if_pos missing
      exact iff_of_true empty (.inl (asked.trans (congrArg Except.ok missing)))
  | false =>
      rw [Value.Passes, Value.Passes, asked, missing, test_empty_of_present missing, Value.Passes,
        test_size_int, Value.measured_eq_true_iff, Value.measured_eq_true_iff]
      simp

theorem not_passes_filled_and_empty : ¬ (v.Passes .filled [] ∧ v.Passes .empty []) := by
  rintro ⟨filled, empty⟩
  cases blank : v.isBlank with
  | true => cases (test_filled_of_blank blank).symm.trans filled
  | false =>
      rw [Value.Passes, test_filled_of_not_blank blank, empty] at filled
      cases filled

/-- Only blank text fails both, unless it is empty. -/
theorem fails_filled_and_empty_iff : v.Fails .filled [] ∧ v.Fails .empty [] ↔
    ∃ label, v = .text label ∧ label.text ≠ "" ∧ Text.isBlankText label.text = true := by
  constructor
  · rintro ⟨filled, empty⟩
    cases blank : v.isBlank with
    | false =>
        rw [Value.Fails, test_filled_of_not_blank blank, empty] at filled
        cases filled
    | true =>
        rcases Value.isBlank_iff.mp blank with missing | ⟨label, rfl, blank⟩
        · have passes : Builtin.empty.test v [] = .ok true := if_pos missing
          cases passes.symm.trans empty
        · refine ⟨label, rfl, ?_, blank⟩
          intro none
          rw [Value.Fails, test_empty_of_present rfl, Value.measured, Value.length?, none] at empty
          cases empty
  · rintro ⟨label, rfl, some, blank⟩
    have length : (label.text.length == 0) = false := by simpa using some
    exact ⟨test_filled_of_blank blank, congrArg Except.ok length⟩

/-- Text is filled when it is text for `type?`. -/
theorem passes_filled_text_iff (label : Label) :
    (Value.text label).Passes .filled [] ↔ (Value.text label).Passes .type [.type .str] := by
  have asked : Builtin.type.test (.text label) [.type .str] =
      .ok ((Value.text label).family.accepted.contains .str) :=
    Value.satisfies_of_known (by decide)
  rw [Value.Passes, Value.Passes, asked]
  cases blank : (Value.text label).isBlank with
  | true => rw [test_filled_of_blank blank, Value.accepted_of_isBlank blank, List.contains_nil]
  | false =>
      have filled : Builtin.filled.test (.text label) [] = .ok true :=
        if_neg (Bool.eq_false_iff.mp blank)
      rw [filled, Value.family_text blank]
      split_ifs
      · exact iff_of_true rfl rfl
      · exact iff_of_true rfl rfl

end Agreement

/-- **The predicates about length share one notion of length.** Where asking a value for its length
faults, every question about it is that fault. Elsewhere each of them comes to an answer, and the
answers fit together: an exact size is a least and a greatest one, a size within a range is a number
that some steps from its start lead to before its stop, and `empty?` is `none?` or the size zero.
Nothing is both filled and empty, and only text of blanks is neither. For text, to be filled is to
be text for `type?`. -/
theorem lengths_agree (v : Value) {size start stop step : Int} (moves : step ≠ 0) :
    (∀ f, v.LengthFaults f →
      ∀ q ∈ lengthQuestions size start stop step, q.1.test v q.2 = .error f) ∧
    ((∀ f, ¬ v.LengthFaults f) →
      (∀ q ∈ lengthQuestions size start stop step, Answers (q.1.test v q.2)) ∧
      (v.Passes .size [.int size] ↔
        v.Passes .minSize [.int size] ∧ v.Passes .maxSize [.int size]) ∧
      (v.length?.isSome = true →
        (v.Passes .maxSize [.int size] ↔ v.Fails .minSize [.int (size + 1)])) ∧
      (v.Passes .size [.range start stop step] ↔
        ∃ n : Nat, v.HasLength n ∧ ∃ i : Nat, (n : Int) = start + step * i ∧
          (0 < step → (n : Int) < stop) ∧ (step < 0 → stop < n)) ∧
      (v.Passes .size [.range start stop 1] ↔
        v.Passes .minSize [.int start] ∧ v.Passes .maxSize [.int (stop - 1)]) ∧
      (v.Passes .empty [] ↔ v.Passes .none [] ∨ v.Passes .size [.int 0]) ∧
      ¬ (v.Passes .filled [] ∧ v.Passes .empty []) ∧
      (v.Fails .filled [] ∧ v.Fails .empty [] ↔
        ∃ label, v = .text label ∧ label.text ≠ "" ∧ Text.isBlankText label.text = true)) ∧
    ∀ label, v = .text label → (v.Passes .filled [] ↔ v.Passes .type [.type .str]) := by
  refine ⟨fun f => test_of_lengthFaults, fun answers => ?_, ?_⟩
  · refine ⟨test_answers_of_length answers, ?_,
      fun sized => passes_maxSize_iff_fails_minSize sized answers, passes_range_iff moves, ?_,
      passes_empty_iff, not_passes_filled_and_empty, fails_filled_and_empty_iff⟩
    · rw [passes_bounds_iff, Value.Passes, test_size_int, Value.measured_eq_true_iff]
      refine exists_congr fun n => and_congr_right fun _ => ?_
      rw [decide_eq_true_eq]
      omega
    · rw [passes_bounds_iff, passes_range_iff one_ne_zero]
      refine exists_congr fun n => and_congr_right fun _ => ?_
      constructor
      · rintro ⟨i, steps, below, -⟩
        have below := below one_pos
        omega
      · rintro ⟨above, below⟩
        exact ⟨((n : Int) - start).toNat, by omega, by omega, by omega⟩
  · rintro label rfl
    exact passes_filled_text_iff label

/-- A record that gives a negative length. -/
def negativeLength : Value :=
  .record ⟨0, "r", [], [], [], [], Option.none, some (.given (-1)), Option.none⟩

/-- Three items are one of the sizes from seven down in steps of two, and not more than three. A
record that gives a negative length is neither filled nor empty, but faults. -/
theorem lengths_agree_descending :
    let three := Value.list [.int 1, .int 2, .int 3]
    let fault := Fault.ofMessage .value "__len__() should return >= 0"
    (-2 : Int) ≠ 0 ∧ three.Passes .size [.range 7 0 (-2)] ∧ three.Fails .minSize [.int 4] ∧
      Builtin.filled.test negativeLength [] = .error fault ∧
      Builtin.empty.test negativeLength [] = .error fault := by
  intro three fault
  have moves : (-2 : Int) ≠ 0 := by decide
  have length : three.HasLength 3 := rfl
  have answers : ∀ f, ¬ three.LengthFaults f := fun f faults => nomatch length.symm.trans faults
  obtain ⟨-, agree, -⟩ := @lengths_agree three 3 7 0 (-2) moves
  obtain ⟨-, -, bounds, range, -⟩ := agree answers
  obtain ⟨faults, -⟩ := @lengths_agree negativeLength 0 7 0 (-2) moves
  refine ⟨moves, range.mpr ⟨3, length, 2, ?_⟩, (bounds rfl).mp ?_, ?_, ?_⟩
  · decide
  · exact rfl
  · exact faults fault rfl (.filled, []) (by simp [lengthQuestions])
  · exact faults fault rfl (.empty, []) (by simp [lengthQuestions])

end Builtin

end RecordRules
