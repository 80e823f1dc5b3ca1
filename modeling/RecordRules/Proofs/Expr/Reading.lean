import RecordRules.Proofs.Expr.Shape

/-!
Expressions as short-circuit formulas.

`Expr.read` is a second account of what an expression says about a value. It knows nothing of blame
or of paths: a reading is a truth value, or the leaf that faulted, with the leaves that were asked
for it. `failureBy_refines_read` says that asking an expression for the one to blame agrees with its
reading, in its answer, in its fault and in what is asked, and that negation passes through the
connectives as it does for truth values.
-/

namespace RecordRules

/-! ### Readings -/

/-- The truth of a formula, or the leaf that faulted and its fault, with the leaves that were asked
for it. -/
@[ext] structure Reading where
  answer : Except (Leaf × Fault) Bool
  asked : List Leaf

namespace Reading

/-- A truth value that takes no asking. -/
def settled (b : Bool) : Reading := ⟨.ok b, []⟩

/-- Two readings in a row: the second is taken only when the first comes to `b`. For `true` this is
conjunction, for `false` it is disjunction. -/
def thenOn (b : Bool) (x y : Reading) : Reading :=
  match x.answer with
  | .ok a => if a = b then ⟨y.answer, x.asked ++ y.asked⟩ else x
  | .error _ => x

def negate (x : Reading) : Reading := ⟨x.answer.map (!·), x.asked⟩

theorem negate_negate (x : Reading) : x.negate.negate = x := by
  obtain ⟨answer, asked⟩ := x
  cases answer with
  | error f => rfl
  | ok b => simp [negate, Except.map]

/-- The opposite of a conjunction is the disjunction of the opposites, and the other way round. -/
theorem negate_thenOn (b : Bool) (x y : Reading) :
    (x.thenOn b y).negate = x.negate.thenOn (!b) y.negate := by
  obtain ⟨answer, asked⟩ := x
  cases answer with
  | error f => rfl
  | ok a => cases a <;> cases b <;> rfl

@[simp] theorem thenOn_settled (b : Bool) (x : Reading) : x.thenOn b (settled b) = x := by
  obtain ⟨answer, asked⟩ := x
  cases answer with
  | error f => rfl
  | ok a => cases a <;> cases b <;> simp [thenOn, settled]

theorem asked_thenOn_sublist (b : Bool) {x y : Reading} {ls ms : List Leaf}
    (left : x.asked.Sublist ls) (right : y.asked.Sublist ms) :
    (x.thenOn b y).asked.Sublist (ls ++ ms) := by
  have first : x.asked.Sublist (ls ++ ms) := left.trans (List.sublist_append_left ls ms)
  unfold thenOn
  split
  · split
    · exact left.append right
    · exact first
  · exact first

/-- A reading tells its outcomes truly: every leaf that was asked has an answer, except that a leaf
it reports as faulting does fault and was asked last. -/
def Tells (outcomes : Outcomes) (v : Value) (x : Reading) : Prop :=
  match x.answer with
  | .ok _ => ∀ leaf ∈ x.asked, ∃ b, outcomes leaf.1 v leaf.2 = .ok b
  | .error (leaf, f) => outcomes leaf.1 v leaf.2 = .error f ∧ ∃ before, x.asked = before ++ [leaf] ∧
      ∀ earlier ∈ before, ∃ b, outcomes earlier.1 v earlier.2 = .ok b

section Tells

variable {outcomes : Outcomes} {v : Value}

theorem tells_settled (b : Bool) : (settled b).Tells outcomes v := by
  intro leaf mem
  exact absurd mem List.not_mem_nil

theorem Tells.negate {x : Reading} (told : x.Tells outcomes v) : x.negate.Tells outcomes v := by
  obtain ⟨answer, asked⟩ := x
  cases answer with
  | error f => exact told
  | ok b => exact told

/-- Going on after answers alone keeps a reading true. -/
theorem Tells.append {asked : List Leaf} {y : Reading}
    (before : ∀ leaf ∈ asked, ∃ b, outcomes leaf.1 v leaf.2 = .ok b) (told : y.Tells outcomes v) :
    (⟨y.answer, asked ++ y.asked⟩ : Reading).Tells outcomes v := by
  obtain ⟨answer, asked'⟩ := y
  cases answer with
  | ok b =>
      intro leaf mem
      rcases List.mem_append.mp mem with early | late
      · exact before leaf early
      · exact told leaf late
  | error blamed =>
      obtain ⟨faults, init, split, answered⟩ := told
      refine ⟨faults, asked ++ init, ?_, ?_⟩
      · change asked ++ asked' = _
        rw [show asked' = init ++ [blamed.1] from split, List.append_assoc]
      · intro leaf mem
        rcases List.mem_append.mp mem with early | late
        · exact before leaf early
        · exact answered leaf late

theorem Tells.thenOn {b : Bool} {x y : Reading} (toldX : x.Tells outcomes v)
    (toldY : y.Tells outcomes v) : (x.thenOn b y).Tells outcomes v := by
  obtain ⟨answer, asked⟩ := x
  cases answer with
  | error f => exact toldX
  | ok a =>
      unfold Reading.thenOn
      dsimp only
      split
      · exact Tells.append toldX toldY
      · exact toldX

/-- A reading ends in a fault exactly when a leaf that faults is asked, and then in the fault of
that leaf. -/
theorem Tells.faults_iff {x : Reading} (told : x.Tells outcomes v) (leaf : Leaf) (f : Fault) :
    x.answer = .error (leaf, f) ↔ leaf ∈ x.asked ∧ outcomes leaf.1 v leaf.2 = .error f := by
  obtain ⟨answer, asked⟩ := x
  cases answer with
  | ok b =>
      constructor
      · intro failed
        cases failed
      · rintro ⟨mem, failed⟩
        obtain ⟨b, answered⟩ := told leaf mem
        rw [answered] at failed
        cases failed
  | error blamed =>
      obtain ⟨faults, before, split, answered⟩ := told
      change asked = _ at split
      subst split
      constructor
      · intro failed
        cases failed
        exact ⟨List.mem_append_right _ List.mem_cons_self, faults⟩
      · rintro ⟨mem, failed⟩
        rcases List.mem_append.mp mem with early | last
        · obtain ⟨b, answer⟩ := answered leaf early
          rw [answer] at failed
          cases failed
        · obtain rfl := List.mem_singleton.mp last
          rw [faults] at failed
          cases failed
          rfl

end Tells

/-- The run that takes a reading for a path: the leaves are called in turn, and a fault is blamed on
the path and its leaf. -/
def run (path : Label) (v : Value) (x : Reading) : Run Bool :=
  ⟨x.answer.mapError fun blamed => Expr.blameFault path blamed.1.1 blamed.2,
    x.asked.map fun leaf => .called leaf.1 v leaf.2⟩

theorem run_negate (path : Label) (v : Value) (x : Reading) :
    x.negate.run path v = do return !(← x.run path v) := by
  obtain ⟨answer, asked⟩ := x
  cases answer with
  | error f => rfl
  | ok b => exact Run.ext rfl (List.append_nil _).symm

theorem run_thenOn (path : Label) (v : Value) (b : Bool) (x y : Reading) :
    (x.thenOn b y).run path v = do
      let a ← x.run path v
      if a = b then y.run path v else return a := by
  obtain ⟨answer, asked⟩ := x
  cases answer with
  | error f => rfl
  | ok a =>
      unfold thenOn
      dsimp only
      rw [Run.bind_ok (x := run path v ⟨.ok a, asked⟩) (a := a) rfl]
      split
      · exact Run.ext rfl List.map_append
      · exact Run.ext rfl (List.append_nil _).symm

end Reading

/-! ### The reading of an expression -/

namespace Expr

mutual

/-- The reading of an expression for a value. -/
def read (outcomes : Outcomes) (v : Value) : Expr → Reading
  | .bound p params => ⟨(outcomes p v params).mapError fun f => ((p, params), f), [(p, params)]⟩
  | .all es => readOn outcomes v true es
  | .any es => readOn outcomes v false es
  | .negation e => (e.read outcomes v).negate
termination_by structural e => e

/-- The reading of operands from the left, each taken only when all before it came to `b`. -/
def readOn (outcomes : Outcomes) (v : Value) (b : Bool) : List Expr → Reading
  | [] => .settled b
  | e :: es => (e.read outcomes v).thenOn b (readOn outcomes v b es)
termination_by structural es => es

end

section Read

variable (outcomes : Outcomes) (v : Value)

/-- What every operand's reading tells truly, the reading of all of them tells truly. -/
theorem readOn_tells (b : Bool) {es : List Expr}
    (told : ∀ e ∈ es, (e.read outcomes v).Tells outcomes v) :
    (readOn outcomes v b es).Tells outcomes v := by
  induction es with
  | nil => exact Reading.tells_settled b
  | cons e es ih =>
      have rest := ih fun e' mem => told e' (List.mem_cons_of_mem _ mem)
      exact (told e List.mem_cons_self).thenOn rest

/-- The reading of an expression tells its outcomes truly. -/
theorem read_tells (e : Expr) : (e.read outcomes v).Tells outcomes v := by
  induction e using Expr.induction with
  | bound p params =>
      unfold read
      cases outcome : outcomes p v params with
      | ok b =>
          intro leaf mem
          obtain rfl := List.mem_singleton.mp mem
          exact ⟨b, outcome⟩
      | error f => exact ⟨outcome, [], rfl, fun _ mem => absurd mem List.not_mem_nil⟩
  | all es ih => exact readOn_tells outcomes v true ih
  | any es ih => exact readOn_tells outcomes v false ih
  | negation e ih => exact ih.negate

theorem asked_readOn_sublist (b : Bool) {es : List Expr}
    (within : ∀ e ∈ es, (e.read outcomes v).asked.Sublist e.leaves) :
    (readOn outcomes v b es).asked.Sublist (leavesOf es) := by
  induction es with
  | nil => exact List.Sublist.refl _
  | cons e es ih =>
      have rest := ih fun e' mem => within e' (List.mem_cons_of_mem _ mem)
      exact Reading.asked_thenOn_sublist b (within e List.mem_cons_self) rest

/-- What is asked are leaves of the expression in their order, each at most once where it stands. -/
theorem asked_read_sublist (e : Expr) : (e.read outcomes v).asked.Sublist e.leaves := by
  induction e using Expr.induction with
  | bound p params => exact List.Sublist.refl _
  | all es ih => exact asked_readOn_sublist outcomes v true ih
  | any es ih => exact asked_readOn_sublist outcomes v false ih
  | negation e ih => exact ih

theorem read_not_both (x y : Expr) :
    read outcomes v (.negation (.all [x, y])) =
      read outcomes v (.any [.negation x, .negation y]) := by
  simp only [read, readOn, Reading.thenOn_settled, Reading.negate_thenOn, Bool.not_true]

theorem read_not_either (x y : Expr) :
    read outcomes v (.negation (.any [x, y])) =
      read outcomes v (.all [.negation x, .negation y]) := by
  simp only [read, readOn, Reading.thenOn_settled, Reading.negate_thenOn, Bool.not_false]

theorem read_not_not (x : Expr) :
    read outcomes v (.negation (.negation x)) = read outcomes v x := by
  simp only [read, Reading.negate_negate]

end Read

/-! ### Asking for blame is reading -/

section Satisfaction

variable (outcomes : Outcomes) (path : Label) (v : Value)

/-- To blame an expression unless a run answers yes is to be satisfied when it does. -/
theorem isNone_blame_unless (x : Run Bool) (e : Expr) :
    (do return (← (do if ← x then return none else return some e : Run (Option Expr))).isNone) =
      x := by
  rw [bind_assoc]
  have back : (fun b : Bool => (if b = true then pure none else pure (some e)) >>=
      fun blamed : Option Expr => pure blamed.isNone) = (pure : Bool → Run Bool) := by
    funext b
    cases b <;> rfl
  rw [back, bind_pure]

theorem satisfactionBy_bound (p : Predicate) (params : List Value) :
    satisfactionBy outcomes path v (.bound p params) = ask outcomes path v p params :=
  isNone_blame_unless _ _

theorem satisfactionBy_negation (e : Expr) :
    satisfactionBy outcomes path v (.negation e) =
      do return !(← satisfactionBy outcomes path v e) := by
  simp only [satisfactionBy, failureBy, bind_assoc, pure_bind]
  congr 1
  funext blamed
  cases blamed <;> rfl

/-- Looking for the first operand to blame is reading a conjunction, if that holds of each
operand. -/
theorem firstFailure_isNone {es : List Expr}
    (each : ∀ e ∈ es, satisfactionBy outcomes path v e = (e.read outcomes v).run path v) :
    (do return (← firstFailure outcomes path v es).isNone) =
      (readOn outcomes v true es).run path v := by
  induction es with
  | nil => rfl
  | cons e es ih =>
      have rest := ih fun e' mem => each e' (List.mem_cons_of_mem _ mem)
      simp only [readOn, Reading.run_thenOn]
      rw [← each e List.mem_cons_self, ← rest]
      simp only [satisfactionBy, firstFailure, bind_assoc, pure_bind]
      congr 1
      funext blamed
      cases blamed <;> rfl

/-- Looking for a satisfied operand is reading a disjunction, if that holds of each operand. -/
theorem anySatisfied_eq_run {es : List Expr}
    (each : ∀ e ∈ es, satisfactionBy outcomes path v e = (e.read outcomes v).run path v) :
    anySatisfied outcomes path v es = (readOn outcomes v false es).run path v := by
  induction es with
  | nil => rfl
  | cons e es ih =>
      have rest := ih fun e' mem => each e' (List.mem_cons_of_mem _ mem)
      simp only [readOn, Reading.run_thenOn]
      rw [← each e List.mem_cons_self, ← rest]
      simp only [satisfactionBy, anySatisfied, bind_assoc, pure_bind]
      congr 1
      funext blamed
      cases blamed <;> rfl

/-- Whether a value satisfies an expression is what the expression's reading says. -/
theorem satisfactionBy_eq_run (e : Expr) :
    satisfactionBy outcomes path v e = (e.read outcomes v).run path v := by
  induction e using Expr.induction with
  | bound p params =>
      rw [satisfactionBy_bound]
      unfold ask read Reading.run
      cases outcomes p v params <;> rfl
  | all es ih => exact firstFailure_isNone outcomes path v ih
  | any es ih =>
      change _ = (readOn outcomes v false es).run path v
      rw [← anySatisfied_eq_run outcomes path v ih]
      exact isNone_blame_unless _ _
  | negation e ih => rw [satisfactionBy_negation, ih, read, Reading.run_negate]

/-- Being satisfied is having nothing to blame, and takes the same calls. -/
theorem satisfactionBy_eq (e : Expr) :
    satisfactionBy outcomes path v e =
      ⟨(e.failureBy outcomes path v).answer.map Option.isNone,
        (e.failureBy outcomes path v).events⟩ := by
  unfold satisfactionBy
  cases answer : (e.failureBy outcomes path v).answer with
  | ok blamed => rw [Run.bind_ok answer]; exact Run.ext rfl (List.append_nil _)
  | error f => rw [Run.bind_error answer]; rfl

/-- The three ways in which asking for blame and the reading go together. -/
theorem failureBy_cases (e : Expr) :
    ((e.failureBy outcomes path v).answer = .ok none ∧ (e.read outcomes v).answer = .ok true) ∨
    (∃ blamed, (e.failureBy outcomes path v).answer = .ok (some blamed) ∧
      (e.read outcomes v).answer = .ok false) ∨
    ∃ leaf f, (e.failureBy outcomes path v).answer = .error (blameFault path leaf.1 f) ∧
      (e.read outcomes v).answer = .error (leaf, f) := by
  have same := satisfactionBy_eq_run outcomes path v e
  rw [satisfactionBy_eq] at same
  have answers := congrArg Run.answer same
  change Except.map _ _ = Except.mapError _ _ at answers
  cases reading : (e.read outcomes v).answer with
  | error blamed =>
      rw [reading] at answers
      cases asked : (e.failureBy outcomes path v).answer with
      | error f =>
          rw [asked] at answers
          cases answers
          exact .inr (.inr ⟨blamed.1, blamed.2, rfl, rfl⟩)
      | ok answer => rw [asked] at answers; cases answers
  | ok b =>
      rw [reading] at answers
      cases asked : (e.failureBy outcomes path v).answer with
      | error f => rw [asked] at answers; cases answers
      | ok answer =>
          rw [asked] at answers
          cases answer with
          | none => cases answers; exact .inl ⟨rfl, rfl⟩
          | some blamed => cases answers; exact .inr (.inl ⟨blamed, rfl, rfl⟩)

/-- The calls that asking for blame makes are those of the reading. -/
theorem failureBy_events (e : Expr) :
    (e.failureBy outcomes path v).events =
      (e.read outcomes v).asked.map fun leaf => .called leaf.1 v leaf.2 := by
  have same := satisfactionBy_eq_run outcomes path v e
  rw [satisfactionBy_eq] at same
  exact congrArg Run.events same

/-- A fault arises exactly when a leaf that faults is asked: it is the leaf's own fault if that is
one of the engine, and otherwise it is blamed on the path and the leaf. -/
theorem failureBy_error_iff (e : Expr) (f : Fault) :
    (e.failureBy outcomes path v).answer = .error f ↔
      ∃ leaf ∈ (e.read outcomes v).asked, ∃ origin, outcomes leaf.1 v leaf.2 = .error origin ∧
        f = if origin.isEngine then origin
          else .evaluation (.text path) (.ofString leaf.1.key) (.fault origin) := by
  have faults := (read_tells outcomes v e).faults_iff
  constructor
  · intro raised
    rcases failureBy_cases outcomes path v e with ⟨asked, _⟩ | ⟨_, asked, _⟩ |
      ⟨leaf, origin, asked, reading⟩
    · cases asked.symm.trans raised
    · cases asked.symm.trans raised
    · obtain ⟨mem, outcome⟩ := (faults leaf origin).mp reading
      cases asked.symm.trans raised
      exact ⟨leaf, mem, origin, outcome, rfl⟩
  · rintro ⟨leaf, mem, origin, outcome, rfl⟩
    have reading := (faults leaf origin).mpr ⟨mem, outcome⟩
    rcases failureBy_cases outcomes path v e with ⟨_, other⟩ | ⟨_, _, other⟩ | ⟨_, _, asked, other⟩
    · cases other.symm.trans reading
    · cases other.symm.trans reading
    · cases other.symm.trans reading
      exact asked

end Satisfaction

/-- Asking an expression for the one to blame is reading it. Nothing is blamed exactly when the
reading is true and something exactly when it is false; a fault arises exactly when a leaf that
faults is asked, and it is that leaf's own fault if it is one of the engine and otherwise the fault
blamed on the path and the leaf; the calls are the leaves that the reading asks, in its order, none
twice where it stands. So `~(x & y)` and `~x | ~y`, `~(x | y)` and `~x & ~y`, `~~x` and `x` agree in
satisfaction, in fault and in the calls made. -/
theorem failureBy_refines_read (outcomes : Outcomes) (path : Label) (v : Value) (e : Expr) :
    ((e.failureBy outcomes path v).answer = .ok none ↔ (e.read outcomes v).answer = .ok true) ∧
      ((∃ blamed, (e.failureBy outcomes path v).answer = .ok (some blamed)) ↔
        (e.read outcomes v).answer = .ok false) ∧
      ((∃ f, (e.failureBy outcomes path v).answer = .error f) ↔
        ∃ leaf ∈ (e.read outcomes v).asked, ∃ f, outcomes leaf.1 v leaf.2 = .error f) ∧
      (∀ leaf ∈ (e.read outcomes v).asked, ∀ f, outcomes leaf.1 v leaf.2 = .error f →
        (e.failureBy outcomes path v).answer = .error (if f.isEngine then f
          else .evaluation (.text path) (.ofString leaf.1.key) (.fault f))) ∧
      (e.failureBy outcomes path v).events =
        (e.read outcomes v).asked.map (fun leaf => .called leaf.1 v leaf.2) ∧
      (e.read outcomes v).asked.Sublist e.leaves ∧
      ∀ x y : Expr,
        satisfactionBy outcomes path v (.negation (.all [x, y])) =
          satisfactionBy outcomes path v (.any [.negation x, .negation y]) ∧
        satisfactionBy outcomes path v (.negation (.any [x, y])) =
          satisfactionBy outcomes path v (.all [.negation x, .negation y]) ∧
        satisfactionBy outcomes path v (.negation (.negation x)) =
          satisfactionBy outcomes path v x := by
  refine ⟨?_, ?_, ⟨?_, ?_⟩, ?_, failureBy_events outcomes path v e, asked_read_sublist outcomes v e,
    fun x y => ?_⟩
  · rcases failureBy_cases outcomes path v e with ⟨asked, reading⟩ | ⟨_, asked, reading⟩ |
      ⟨_, _, asked, reading⟩
    all_goals simp [asked, reading]
  · rcases failureBy_cases outcomes path v e with ⟨asked, reading⟩ | ⟨_, asked, reading⟩ |
      ⟨_, _, asked, reading⟩
    all_goals simp [asked, reading]
  · rintro ⟨f, raised⟩
    obtain ⟨leaf, mem, origin, outcome, -⟩ := (failureBy_error_iff outcomes path v e f).mp raised
    exact ⟨leaf, mem, origin, outcome⟩
  · rintro ⟨leaf, mem, origin, outcome⟩
    exact ⟨_, (failureBy_error_iff outcomes path v e _).mpr ⟨leaf, mem, origin, outcome, rfl⟩⟩
  · intro leaf mem origin outcome
    exact (failureBy_error_iff outcomes path v e _).mpr ⟨leaf, mem, origin, outcome, rfl⟩
  · simp only [satisfactionBy_eq_run, read_not_both, read_not_either, read_not_not, and_self]

end Expr

end RecordRules
