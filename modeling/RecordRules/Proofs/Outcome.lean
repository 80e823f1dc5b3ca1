import Mathlib.Data.List.Forall2

/-!
Answers and faults.

A computation of several steps comes to an answer exactly when every step of it does. These are the
forms in which that is used: two steps in a row, a step on the answer, a step on the fault, and one
step for each item of a list. `FaultsIn` bounds the faults that a computation can come to, by the
faults of its steps, and `StopsAtFirst` says which of several steps its fault comes from.
-/

namespace RecordRules.Except

variable {ε δ α β : Type}

theorem bind_ok_iff {first : Except ε α} {next : α → Except ε β} {b : β} :
    first >>= next = .ok b ↔ ∃ a, first = .ok a ∧ next a = .ok b := by
  constructor
  · intro h
    cases first with
    | error fault => exact nomatch h
    | ok a => exact ⟨a, rfl, h⟩
  · rintro ⟨a, rfl, h⟩
    exact h

theorem error_bind (fault : ε) (next : α → Except ε β) :
    (.error fault : Except ε α) >>= next = .error fault := rfl

theorem ok_bind (a : α) (next : α → Except ε β) : (.ok a : Except ε α) >>= next = next a := rfl

theorem bind_error_iff {first : Except ε α} {next : α → Except ε β} {fault : ε} :
    first >>= next = .error fault ↔
      first = .error fault ∨ ∃ a, first = .ok a ∧ next a = .error fault := by
  cases first with
  | error other =>
      rw [error_bind]
      constructor
      · intro same
        cases same
        exact .inl rfl
      · rintro (same | ⟨a, here, -⟩)
        · cases same
          rfl
        · cases here
  | ok a =>
      rw [ok_bind]
      constructor
      · intro later
        exact .inr ⟨a, rfl, later⟩
      · rintro (here | ⟨b, same, later⟩)
        · cases here
        · cases same
          exact later

theorem map_ok_iff {first : Except ε α} {f : α → β} {b : β} :
    first.map f = .ok b ↔ ∃ a, first = .ok a ∧ f a = b := by
  constructor
  · intro h
    cases first with
    | error fault => exact nomatch h
    | ok a => exact ⟨a, rfl, Except.ok.inj h⟩
  · rintro ⟨a, rfl, rfl⟩
    rfl

theorem mapError_ok_iff {first : Except ε α} {f : ε → δ} {a : α} :
    first.mapError f = .ok a ↔ first = .ok a := by
  constructor
  · intro h
    cases first with
    | error fault => exact nomatch h
    | ok a' => exact congrArg Except.ok (Except.ok.inj h)
  · rintro rfl
    rfl

theorem mapError_error_iff {first : Except ε α} {f : ε → δ} {fault : δ} :
    first.mapError f = .error fault ↔ ∃ e, first = .error e ∧ f e = fault := by
  constructor
  · intro h
    cases first with
    | error e => exact ⟨e, rfl, Except.error.inj h⟩
    | ok a => exact nomatch h
  · rintro ⟨e, rfl, rfl⟩
    rfl

/-! ### Items one after another -/

/-- The answers for some items, the first of which has the index `i`: the items are taken from the
left, up to the first that faults. -/
def traverseFrom (f : Nat → α → Except ε β) (i : Nat) : List α → Except ε (List β)
  | [] => .ok []
  | x :: xs => do
    let y ← f i x
    let ys ← traverseFrom f (i + 1) xs
    return y :: ys

section Traverse

variable {f : Nat → α → Except ε β} {R : α → β → Prop} {xs : List α} {ys : List β} {i : Nat}

theorem traverseFrom_cons_ok_iff {x : α} :
    traverseFrom f i (x :: xs) = .ok ys ↔
      ∃ y zs, f i x = .ok y ∧ traverseFrom f (i + 1) xs = .ok zs ∧ ys = y :: zs := by
  rw [traverseFrom, bind_ok_iff]
  constructor
  · rintro ⟨y, first, h⟩
    obtain ⟨zs, others, h⟩ := bind_ok_iff.mp h
    exact ⟨y, zs, first, others, (Except.ok.inj h).symm⟩
  · rintro ⟨y, zs, first, others, rfl⟩
    exact ⟨y, first, bind_ok_iff.mpr ⟨zs, others, rfl⟩⟩

/-- Items that are related to some answers come to them, if each of them does. -/
theorem traverseFrom_of_forall₂ (related : List.Forall₂ R xs ys)
    (each : ∀ x ∈ xs, ∀ y ∈ ys, ∀ i, R x y → f i x = .ok y) : traverseFrom f i xs = .ok ys := by
  induction related generalizing i with
  | nil => rfl
  | cons first _ ih =>
      have here := each _ List.mem_cons_self _ List.mem_cons_self i first
      refine traverseFrom_cons_ok_iff.mpr ⟨_, _, here, ih ?_, rfl⟩
      exact fun x inXs y inYs =>
        each x (List.mem_cons_of_mem _ inXs) y (List.mem_cons_of_mem _ inYs)

/-- Items are related to the answers that they come to, if each of them is. -/
theorem forall₂_of_traverseFrom (h : traverseFrom f i xs = .ok ys)
    (each : ∀ x ∈ xs, ∀ y ∈ ys, ∀ i, f i x = .ok y → R x y) : List.Forall₂ R xs ys := by
  induction xs generalizing i ys with
  | nil =>
      cases h
      exact .nil
  | cons x xs ih =>
      obtain ⟨y, zs, first, others, rfl⟩ := traverseFrom_cons_ok_iff.mp h
      refine .cons (each x List.mem_cons_self y List.mem_cons_self i first) (ih others ?_)
      exact fun x inXs y inYs =>
        each x (List.mem_cons_of_mem _ inXs) y (List.mem_cons_of_mem _ inYs)

theorem length_of_traverseFrom (h : traverseFrom f i xs = .ok ys) : xs.length = ys.length := by
  have related : List.Forall₂ (fun _ _ => True) xs ys :=
    forall₂_of_traverseFrom h fun _ _ _ _ _ _ => trivial
  exact related.length_eq

/-- Each answer is that of the item in its place. -/
theorem getElem?_of_traverseFrom (h : traverseFrom f i xs = .ok ys) {j : Nat} {y : β}
    (here : ys[j]? = some y) : ∃ x, xs[j]? = some x ∧ f (i + j) x = .ok y := by
  induction xs generalizing i ys j with
  | nil =>
      cases h
      cases here
  | cons x xs ih =>
      obtain ⟨z, zs, first, others, rfl⟩ := traverseFrom_cons_ok_iff.mp h
      cases j with
      | zero =>
          cases here
          exact ⟨x, rfl, first⟩
      | succ j =>
          obtain ⟨w, item, found⟩ := ih others here
          exact ⟨w, item, by rwa [Nat.add_comm j, ← Nat.add_assoc]⟩

end Traverse

/-- What each step keeps is kept by a step for each item of a list. -/
theorem foldlM_keeps {P : β → Prop} {step : β → α → Except ε β} {xs : List α} {b c : β}
    (start : P b) (keeps : ∀ x ∈ xs, ∀ b c, P b → step b x = .ok c → P c)
    (run : xs.foldlM step b = .ok c) : P c := by
  induction xs generalizing b with
  | nil =>
      cases run
      exact start
  | cons x xs ih =>
      rw [List.foldlM_cons] at run
      obtain ⟨b', first, others⟩ := bind_ok_iff.mp run
      obtain ⟨here, later⟩ := List.forall_mem_cons.mp keeps
      exact ih (here b b' start first) later others

/-! ### The faults of a computation -/

/-- If a computation comes to a fault, then to one with some property. -/
def FaultsIn (P : ε → Prop) (first : Except ε α) : Prop :=
  ∀ fault, first = .error fault → P fault

section FaultsIn

variable {P : ε → Prop} {first : Except ε α}

theorem FaultsIn.ok (a : α) : FaultsIn P (.ok a : Except ε α) := nofun

theorem FaultsIn.error {fault : ε} (h : P fault) : FaultsIn P (.error fault : Except ε α) := by
  intro other same
  cases same
  exact h

theorem FaultsIn.mono {Q : ε → Prop} (here : FaultsIn P first)
    (weaker : ∀ fault, P fault → Q fault) : FaultsIn Q first :=
  fun fault h => weaker fault (here fault h)

theorem FaultsIn.bind {next : α → Except ε β} (here : FaultsIn P first)
    (later : ∀ a, first = .ok a → FaultsIn P (next a)) : FaultsIn P (first >>= next) := by
  cases first with
  | error fault => exact .error (here fault rfl)
  | ok a => exact later a rfl

theorem FaultsIn.map (here : FaultsIn P first) (f : α → β) : FaultsIn P (first.map f) := by
  cases first with
  | error fault => exact .error (here fault rfl)
  | ok a => exact .ok (f a)

theorem FaultsIn.mapError {Q : δ → Prop} {f : ε → δ} (each : ∀ fault, P fault → Q (f fault))
    (here : FaultsIn P first) : FaultsIn Q (first.mapError f) := by
  cases first with
  | error fault => exact .error (each fault (here fault rfl))
  | ok a => exact .ok a

theorem FaultsIn.traverseFrom {f : Nat → α → Except ε β} {xs : List α}
    (each : ∀ x ∈ xs, ∀ i, FaultsIn P (f i x)) (i : Nat) :
    FaultsIn P (Except.traverseFrom f i xs) := by
  induction xs generalizing i with
  | nil => exact .ok []
  | cons x xs ih =>
      refine .bind (each x List.mem_cons_self i) fun y _ => ?_
      refine .bind (ih (fun x mem => each x (List.mem_cons_of_mem _ mem)) (i + 1)) fun ys _ => ?_
      exact .ok (y :: ys)

end FaultsIn

/-! ### The first fault -/

section FirstRaised

variable {σ : Type}

/-- None of some steps raises any fault. -/
def Calm (raises : σ → ε → Prop) (steps : List σ) : Prop :=
  ∀ step ∈ steps, ∀ fault, ¬ raises step fault

/-- The first of some steps that raises any fault, with a fault that it raises. -/
def FirstRaised (raises : σ → ε → Prop) (steps : List σ) (step : σ) (fault : ε) : Prop :=
  ∃ before after, steps = before ++ step :: after ∧ Calm raises before ∧ raises step fault

variable {raises : σ → ε → Prop} {steps later : List σ} {step : σ} {fault : ε}

theorem firstRaised_append_iff :
    FirstRaised raises (steps ++ later) step fault ↔
      FirstRaised raises steps step fault ∨
        Calm raises steps ∧ FirstRaised raises later step fault := by
  constructor
  · rintro ⟨before, after, split, calm, raised⟩
    -- the step stands among the later ones, or before them
    rcases List.append_eq_append_iff.mp split with ⟨rest, rfl, late⟩ | ⟨rest, rfl, late⟩
    · refine .inr ⟨fun e mem => calm e (List.mem_append_left _ mem), rest, after, late, ?_, raised⟩
      exact fun e mem => calm e (List.mem_append_right _ mem)
    · cases rest with
      | nil =>
          rw [List.append_nil]
          exact .inr ⟨calm, [], after, late.symm, nofun, raised⟩
      | cons other rest =>
          obtain ⟨rfl, -⟩ := List.cons.inj late
          exact .inl ⟨before, rest, rfl, calm, raised⟩
  · rintro (⟨before, after, rfl, calm, raised⟩ | ⟨none, before, after, rfl, calm, raised⟩)
    · exact ⟨before, after ++ later, List.append_assoc _ _ _, calm, raised⟩
    · refine ⟨steps ++ before, after, (List.append_assoc _ _ _).symm, fun e mem => ?_, raised⟩
      rcases List.mem_append.mp mem with early | late
      · exact none e early
      · exact calm e late

theorem FirstRaised.not_calm (first : FirstRaised raises steps step fault) :
    ¬ Calm raises steps := by
  obtain ⟨before, after, rfl, -, raised⟩ := first
  exact fun calm => calm step (List.mem_append_right _ List.mem_cons_self) fault raised

theorem firstRaised_singleton_iff {other : σ} :
    FirstRaised raises [other] step fault ↔ step = other ∧ raises other fault := by
  constructor
  · rintro ⟨before, after, split, -, raised⟩
    have mem : step ∈ [other] := split ▸ List.mem_append_right _ List.mem_cons_self
    obtain rfl := List.mem_singleton.mp mem
    exact ⟨rfl, raised⟩
  · rintro ⟨rfl, raised⟩
    exact ⟨[], [], rfl, nofun, raised⟩

/-- Where some step raises a fault, one of them is the first. -/
theorem exists_firstRaised (stirred : ¬ Calm raises steps) :
    ∃ step fault, FirstRaised raises steps step fault := by
  induction steps with
  | nil => exact absurd (fun _ mem => nomatch mem) stirred
  | cons other steps ih =>
      change ∃ step fault, FirstRaised raises ([other] ++ steps) step fault
      simp only [firstRaised_append_iff, firstRaised_singleton_iff]
      by_cases calm : Calm raises [other]
      · have late : ¬ Calm raises steps := fun others =>
          stirred (List.forall_mem_cons.mpr ⟨calm other List.mem_cons_self, others⟩)
        obtain ⟨step, fault, first⟩ := ih late
        exact ⟨step, fault, .inr ⟨calm, first⟩⟩
      · obtain ⟨fault, raised⟩ : ∃ fault, raises other fault := by
          by_contra none
          exact calm (List.forall_mem_singleton.mpr fun fault raised => none ⟨fault, raised⟩)
        exact ⟨other, fault, .inl ⟨rfl, raised⟩⟩

/-- A computation takes some steps in a row: it comes to a fault exactly when that is what the first
of them raises that raises any. -/
def StopsAtFirst (raises : σ → ε → Prop) (steps : List σ) (first : Except ε α) : Prop :=
  ∀ fault, first = .error fault ↔ ∃ step, FirstRaised raises steps step fault

theorem StopsAtFirst.nil (a : α) : StopsAtFirst raises [] (.ok a : Except ε α) := by
  refine fun fault => iff_of_false nofun ?_
  rintro ⟨step, first⟩
  exact first.not_calm nofun

theorem StopsAtFirst.single {first : Except ε α}
    (here : ∀ fault, first = .error fault ↔ raises step fault) :
    StopsAtFirst raises [step] first := by
  intro fault
  simp only [here, firstRaised_singleton_iff, exists_eq_left]

theorem StopsAtFirst.calm {a : α} (stops : StopsAtFirst raises steps (.ok a : Except ε α)) :
    Calm raises steps := by
  by_contra stirred
  obtain ⟨step, fault, first⟩ := exists_firstRaised stirred
  cases (stops fault).mpr ⟨step, first⟩

/-- A computation that goes on where another comes to an answer takes its steps after those of the
other. -/
theorem StopsAtFirst.bind {first : Except ε α} {next : α → Except ε β}
    (here : StopsAtFirst raises steps first)
    (there : ∀ a, first = .ok a → StopsAtFirst raises later (next a)) :
    StopsAtFirst raises (steps ++ later) (first >>= next) := by
  intro fault
  simp only [firstRaised_append_iff]
  cases first with
  | error other =>
      -- a step of the first computation raises something, so no later one is the first to
      obtain ⟨_, raised⟩ := (here other).mp rfl
      have same := here fault
      rw [Except.error.injEq] at same
      rw [error_bind, Except.error.injEq, same]
      refine exists_congr fun step => ⟨.inl, fun first => first.elim id ?_⟩
      exact fun later => absurd later.1 raised.not_calm
  | ok a =>
      have calm := here.calm
      rw [ok_bind, there a rfl fault]
      refine exists_congr fun step => ⟨fun first => .inr ⟨calm, first⟩, ?_⟩
      exact fun first => first.elim (fun first => absurd calm first.not_calm) And.right

/-- Items are gone through from the left, each with its own steps. -/
theorem StopsAtFirst.traverseFrom {f : Nat → α → Except ε β} {g : Nat → α → List σ} {xs : List α}
    (each : ∀ x ∈ xs, ∀ i, StopsAtFirst raises (g i x) (f i x)) (i : Nat) :
    StopsAtFirst raises ((xs.zipIdx i).flatMap fun x => g x.2 x.1)
      (Except.traverseFrom f i xs) := by
  induction xs generalizing i with
  | nil => exact .nil []
  | cons x xs ih =>
      rw [List.forall_mem_cons] at each
      refine .bind (each.1 i) fun y _ => ?_
      have others := (ih each.2 (i + 1)).bind fun ys _ => .nil (y :: ys)
      rw [List.append_nil] at others
      exact others

end FirstRaised

/-- A computation that is carried out and comes to a fault with some property. -/
theorem exists_error_of_match {first : Except ε α} {P : ε → Prop} [DecidablePred P]
    (carriedOut : (match first with | .ok _ => false | .error e => decide (P e)) = true) :
    ∃ e, first = .error e ∧ P e := by
  cases first with
  | ok a => cases carriedOut
  | error e => exact ⟨e, rfl, of_decide_eq_true carriedOut⟩

end RecordRules.Except
