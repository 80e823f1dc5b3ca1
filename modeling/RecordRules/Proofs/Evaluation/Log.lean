import RecordRules.Proofs.Evaluation.Pass

/-!
What an evaluation leaves behind: its calls and its log.

Both are views of the history, so they are taken rule by rule. `callsOf_history` says which calls a
rule makes, `logOf_history` what it logs. A list of rules either breaks nowhere or has a first rule
that breaks (`unbroken_or_broken`), and the history of an evaluation is that of the rules up to that
one.
-/

namespace RecordRules

namespace Run

variable {events events' : List Event}

theorem callsOf_append : callsOf (events ++ events') = callsOf events ++ callsOf events' :=
  List.filterMap_append

theorem logOf_append : logOf (events ++ events') = logOf events ++ logOf events' :=
  List.filterMap_append

theorem callsOf_flatMap {α : Type} (xs : List α) (f : α → List Event) :
    callsOf (xs.flatMap f) = xs.flatMap fun x => callsOf (f x) := by
  induction xs with
  | nil => rfl
  | cons x xs ih => rw [List.flatMap_cons, callsOf_append, ih, List.flatMap_cons]

theorem logOf_flatMap {α : Type} (xs : List α) (f : α → List Event) :
    logOf (xs.flatMap f) = xs.flatMap fun x => logOf (f x) := by
  induction xs with
  | nil => rfl
  | cons x xs ih => rw [List.flatMap_cons, logOf_append, ih, List.flatMap_cons]

end Run

namespace Config

/-! ### One rule -/

section Rule

variable (outcomes : Outcomes) (c : Config) (record : Value) (r : Rule)

theorem logOf_failureBy (v : Value) : Run.logOf (r.failureBy outcomes v).events = [] := by
  rw [Rule.failureBy, Expr.failureBy_events, Run.logOf, List.filterMap_map]
  exact List.filterMap_eq_nil_iff.mpr fun _ _ => rfl

theorem callsOf_failureBy (v : Value) :
    Run.callsOf (r.failureBy outcomes v).events =
      (r.expr.read outcomes v).asked.map fun leaf => (leaf.1, v, leaf.2) := by
  rw [Rule.failureBy, Expr.failureBy_events, Run.callsOf, List.filterMap_map]
  have calls : (fun leaf : Leaf => some (leaf.1, v, leaf.2)) =
      some ∘ fun leaf : Leaf => (leaf.1, v, leaf.2) := rfl
  exact congrFun (calls ▸ List.filterMap_eq_map) _

theorem callsOf_brokenEntry (f : Fault) : Run.callsOf (brokenEntry f) = [] := by
  cases f <;> rfl

/-- The calls for a rule are those of the leaves that its expression asks about the value at its
path; there are none if the path is refused or the record faults. -/
theorem callsOf_history :
    Run.callsOf (c.history outcomes record r) =
      match c.checkPath r.path, c.resolve record r.path with
      | .ok (), .ok v => (r.expr.read outcomes v).asked.map fun leaf => (leaf.1, v, leaf.2)
      | _, _ => [] := by
  unfold history
  cases c.checkPath r.path with
  | error f => rfl
  | ok u =>
      cases c.resolve record r.path with
      | error f => rfl
      | ok v =>
          change Run.callsOf ((r.failureBy outcomes v).events ++ _) = _
          rw [Run.callsOf_append, callsOf_failureBy]
          refine (congrArg _ ?_).trans (List.append_nil _)
          cases c.verdict outcomes record r with
          | satisfied => rfl
          | failed e => cases c.logFailures <;> rfl
          | broken f => exact callsOf_brokenEntry f

/-- What a rule logs: nothing if its path is refused, the fault of the record if there is one, and
otherwise its failure, if the settings ask for it, or the fault of its expression. -/
theorem logOf_history :
    Run.logOf (c.history outcomes record r) =
      match c.checkPath r.path, c.resolve record r.path with
      | .error _, _ => []
      | .ok (), .error f => [.unresolved r.path r.expr.name f]
      | .ok (), .ok _ =>
        match c.verdict outcomes record r with
        | .satisfied => []
        | .failed e => if c.logFailures then [.failed e] else []
        | .broken f => Run.logOf (brokenEntry f) := by
  unfold history
  cases c.checkPath r.path with
  | error f => rfl
  | ok u =>
      cases c.resolve record r.path with
      | error f => rfl
      | ok v =>
          change Run.logOf ((r.failureBy outcomes v).events ++ _) = _
          rw [Run.logOf_append, logOf_failureBy, List.nil_append]
          cases c.verdict outcomes record r with
          | satisfied => rfl
          | failed e => cases c.logFailures <;> rfl
          | broken f => rfl

/-- A call for a rule is one of a leaf that the rule's expression asks about the value at its
path. -/
theorem mem_callsOf_history {p : Predicate} {v : Value} {params : List Value} :
    (p, v, params) ∈ Run.callsOf (c.history outcomes record r) ↔
      c.checkPath r.path = .ok () ∧ c.resolve record r.path = .ok v ∧
        (p, params) ∈ (r.expr.read outcomes v).asked := by
  rw [callsOf_history]
  cases c.checkPath r.path with
  | error f => simp
  | ok u =>
      cases c.resolve record r.path with
      | error f => simp
      | ok w =>
          simp only [List.mem_map, Prod.mk.injEq, true_and, Except.ok.injEq]
          constructor
          · rintro ⟨leaf, asked, rfl, rfl, rfl⟩
            exact ⟨rfl, asked⟩
          · rintro ⟨rfl, asked⟩
            exact ⟨(p, params), asked, rfl, rfl, rfl⟩

end Rule

/-! ### All rules -/

section Rules

variable (outcomes : Outcomes) (c : Config) (record : Value)

/-- Either no rule breaks, or there is a first one that does. -/
theorem unbroken_or_broken (rs : List Rule) :
    (∀ r ∈ rs, (c.verdict outcomes record r).fault? = none) ∨
      ∃ before r after f, rs = before ++ r :: after ∧
        (∀ q ∈ before, (c.verdict outcomes record q).fault? = none) ∧
        (c.verdict outcomes record r).fault? = some f := by
  induction rs with
  | nil => exact .inl nofun
  | cons r rs ih =>
      cases here : (c.verdict outcomes record r).fault? with
      | some f => exact .inr ⟨[], r, rs, f, rfl, nofun, here⟩
      | none =>
          rcases ih with unbroken | ⟨before, q, after, f, rfl, unbroken, broken⟩
          · exact .inl (List.forall_mem_cons.mpr ⟨here, unbroken⟩)
          · refine .inr ⟨r :: before, q, after, f, rfl, ?_, broken⟩
            exact List.forall_mem_cons.mpr ⟨here, unbroken⟩

/-- An evaluation in which no rule breaks. -/
theorem evaluateBy_unbroken {rs : RuleSet}
    (unbroken : ∀ r ∈ rs.rules, (c.verdict outcomes record r).fault? = none) :
    c.evaluateBy outcomes rs record =
      ⟨.ok ⟨.ofList (c.failures outcomes record rs.rules)⟩,
        rs.rules.flatMap (c.history outcomes record) ++ [.logged (.summary rs.rules.length
          (c.failures outcomes record rs.rules).length)]⟩ := by
  have errors := errorsOf_unbroken outcomes c record unbroken
  rw [evaluateBy, Run.bind_ok (congrArg Run.answer errors), errors]
  rfl

/-- An evaluation with a first rule that breaks. -/
theorem evaluateBy_broken {rs : RuleSet} {before : List Rule} {r : Rule} {after : List Rule}
    {f : Fault} (split : rs.rules = before ++ r :: after)
    (unbroken : ∀ q ∈ before, (c.verdict outcomes record q).fault? = none)
    (broken : (c.verdict outcomes record r).fault? = some f) :
    c.evaluateBy outcomes rs record =
      ⟨.error f, (before ++ [r]).flatMap (c.history outcomes record)⟩ := by
  rw [evaluateBy, split, errorsOf_broken outcomes c record unbroken broken]
  rfl

end Rules

end Config

end RecordRules
