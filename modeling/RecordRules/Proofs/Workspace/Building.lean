import RecordRules.Proofs.Outcome
import RecordRules.Proofs.Registry.Lookup
import RecordRules.Workspace.Command

/-!
Building rule sets in a workspace.

A builder changes with the operations that are called on it, while a rule set that it has built is a
value. An operation either adds its rules or fails and changes nothing (`holds_run`). So what a
builder holds after any operations, and builds, is what the successful ones have added since the
last reset (`rules_afterAll`, `rules_afterAll_reset`). A variable with a rule set keeps it until a
command stores its answer there (`lookup_run`).
-/

namespace RecordRules

namespace Builder

inductive Operation where
  | validates (path name : Value) (params : List Value)
  | rule (path expr : Value)
  | extend (rs : RuleSet)
  | build
  | reset

namespace Operation

def command (handle : Nat) : Operation → Command
  | .validates path name params => .call (.builder handle) "validates" ⟨path :: name :: params, []⟩
  | .rule path expr => .call (.builder handle) "rule" ⟨[path, expr], []⟩
  | .extend rs => .call (.builder handle) "extend" ⟨[.ruleSet rs], []⟩
  | .build => .call (.builder handle) "build" ⟨[], []⟩
  | .reset => .call (.builder handle) "reset" ⟨[], []⟩

/-- The rules that an operation adds when names are resolved by a registry, or the fault that it
fails with. -/
def adds (reg : Registry) : Operation → Except Fault (List Rule)
  | .validates path name params => do
    let e ← Expr.bind (← reg.resolve name.nameKey) params
    return [← Rule.make path (.expr e)]
  | .rule path expr => do return [← Rule.make path expr]
  | .extend rs => .ok rs.rules
  | .build | .reset => .ok []

/-- The rules that an operation adds, none if it fails. -/
def added (reg : Registry) (op : Operation) : List Rule :=
  match op.adds reg with
  | .ok rules => rules
  | .error _ => []

/-- The rules that stay while an operation adds its own. -/
def kept (rules : List Rule) : Operation → List Rule
  | .reset => []
  | _ => rules

/-- What an operation answers with unless it fails: the rule set that was built, or the builder. -/
def answer (handle : Nat) (rules : List Rule) : Operation → Value
  | .build => .ruleSet ⟨rules⟩
  | _ => .builder handle

end Operation

theorem rule_eq_adds (b : Builder) (path expr : Value) :
    b.rule path expr =
      ((Operation.rule path expr).adds b.registry).map fun added =>
        { b with rules := b.rules ++ added } := by
  simp only [rule, Operation.adds]
  cases Rule.make path expr with
  | error f => rfl
  | ok r => rfl

theorem validates_eq_adds (b : Builder) (path name : Value) (params : List Value) :
    b.validates path name params =
      ((Operation.validates path name params).adds b.registry).map fun added =>
        { b with rules := b.rules ++ added } := by
  simp only [validates, validatesBy, predicateBy, Operation.adds, Expr.bind]
  cases b.registry.resolve name.nameKey with
  | error f => rfl
  | ok p =>
      simp only [Except.ok_bind]
      cases Expr.bindBy Predicate.check p params with
      | error f => rfl
      | ok e => exact rule_eq_adds b path (.expr e)

/-! ### Operations one after another -/

def after (b : Builder) (op : Operation) : Builder :=
  match op.adds b.registry with
  | .ok added => { b with rules := op.kept b.rules ++ added }
  | .error _ => b

def afterAll (b : Builder) (ops : List Operation) : Builder := ops.foldl after b

theorem registry_after (b : Builder) (op : Operation) : (b.after op).registry = b.registry := by
  unfold after
  split <;> rfl

theorem registry_afterAll (b : Builder) (ops : List Operation) :
    (b.afterAll ops).registry = b.registry := by
  induction ops generalizing b with
  | nil => rfl
  | cons op ops ih =>
      rw [← registry_after b op]
      exact ih (b.after op)

/-- Any operation but a reset adds its rules after those that are there. -/
theorem rules_after {op : Operation} (keeps : op ≠ .reset) (b : Builder) :
    (b.after op).rules = b.rules ++ op.added b.registry := by
  have kept : op.kept b.rules = b.rules := by
    cases op with
    | reset => exact absurd rfl keeps
    | validates path name params => rfl
    | rule path expr => rfl
    | extend rs => rfl
    | build => rfl
  unfold after Operation.added
  cases op.adds b.registry with
  | ok added => simp only [kept]
  | error f => simp

/-- Without a reset a builder holds its rules and then what the operations add, in their order. -/
theorem rules_afterAll {ops : List Operation} (keep : ∀ op ∈ ops, op ≠ .reset) (b : Builder) :
    (b.afterAll ops).rules = b.rules ++ ops.flatMap (Operation.added b.registry) := by
  induction ops generalizing b with
  | nil => simp [afterAll]
  | cons op ops ih =>
      obtain ⟨here, later⟩ := List.forall_mem_cons.mp keep
      have rest := ih later (b.after op)
      rw [rules_after here, registry_after] at rest
      rw [List.flatMap_cons, ← List.append_assoc]
      exact rest

/-- With a reset a builder holds what the operations after the last one add. -/
theorem rules_afterAll_reset {later : List Operation} (keep : ∀ op ∈ later, op ≠ .reset)
    (b : Builder) (earlier : List Operation) :
    (b.afterAll (earlier ++ .reset :: later)).rules =
      later.flatMap (Operation.added b.registry) := by
  have split : b.afterAll (earlier ++ .reset :: later) =
      ((b.afterAll earlier).after .reset).afterAll later := by
    simp [afterAll]
  have emptied : ((b.afterAll earlier).after .reset).rules = [] := rfl
  rw [split, rules_afterAll keep, emptied, registry_after, registry_afterAll, List.nil_append]

end Builder

/-! ### Builders behind handles -/

namespace Workspace

def Holds (w : Workspace) (handle : Nat) (b : Builder) : Prop :=
  ∃ cell, w.builders[handle]? = some cell ∧ b = ⟨w.registryAt cell.registry, cell.rules⟩

/-- The workspace with other rules in the builder behind a handle. -/
def withRules (w : Workspace) (handle : Nat) (rules : List Rule) : Workspace :=
  { w with builders := w.builders.modify handle fun cell => { cell with rules := rules } }

variable {w : Workspace} {handle : Nat} {b : Builder}

theorem builderAt_of_holds (holds : w.Holds handle b) : w.builderAt handle = b := by
  obtain ⟨cell, there, rfl⟩ := holds
  rw [builderAt, there]

theorem holds_withRules (holds : w.Holds handle b) (rules : List Rule) :
    (w.withRules handle rules).Holds handle { b with rules := rules } := by
  obtain ⟨cell, there, rfl⟩ := holds
  refine ⟨{ cell with rules := rules }, ?_, rfl⟩
  simp [withRules, there]

theorem withRules_of_holds (holds : w.Holds handle b) : w.withRules handle b.rules = w := by
  obtain ⟨cell, there, rfl⟩ := holds
  have same : w.builders.modify handle (fun c => { c with rules := cell.rules }) = w.builders := by
    apply List.ext_getElem?
    intro i
    rw [List.getElem?_modify]
    by_cases here : handle = i
    · subst here
      simp [there]
    · simp [here]
  simp only [withRules, same]

/-- A step that changes a builder fails and changes nothing, or answers with the builder. -/
theorem run_step (w : Workspace) (handle : Nat) (x : Except Fault Builder) :
    (do
      let next ← Action.made x
      Action.setRules handle next
      return .builder handle : Action Value).run.run w =
      match x with
      | .error f => (.error (.fault (Host.standard.raise f)), w)
      | .ok next => (.ok (.builder handle), w.withRules handle next.rules) := by
  cases x with
  | error f => rfl
  | ok next => rfl

/-- The rule set of the rules of a rule set is that rule set. -/
theorem ruleSet_ruleSet (rs : RuleSet) : Action.ruleSet (.ruleSet rs) = pure rs := by
  obtain ⟨rules⟩ := rs
  have items : Action.itemsOf (.ruleSet ⟨rules⟩) = pure (rules.map .rule) := rfl
  rw [Action.ruleSet, items, pure_bind, RuleSet.make_map_rule]
  rfl

/-- What an operation of a builder comes to: its fault, and nothing has changed, or its answer, and
the builder has its rules. -/
theorem action_command (holds : w.Holds handle b) (op : Builder.Operation) :
    (op.command handle).action.run.run w =
      match op.adds b.registry with
      | .error f => (.error (.fault (Host.standard.raise f)), w)
      | .ok added =>
        (.ok (op.answer handle b.rules), w.withRules handle (op.kept b.rules ++ added)) := by
  have here := builderAt_of_holds holds
  cases op with
  | validates path name params =>
      have step := run_step w handle ((w.builderAt handle).validates path name params)
      refine Eq.trans step ?_
      rw [here, Builder.validates_eq_adds]
      cases (Builder.Operation.validates path name params).adds b.registry with
      | error f => rfl
      | ok added => rfl
  | rule path expr =>
      have step := run_step w handle ((w.builderAt handle).rule path expr)
      refine Eq.trans step ?_
      rw [here, Builder.rule_eq_adds]
      cases (Builder.Operation.rule path expr).adds b.registry with
      | error f => rfl
      | ok added => rfl
  | extend rs =>
      have step : ((Builder.Operation.extend rs).command handle).action = (do
        let b := (← get).builderAt handle
        let next := b.extend (← Action.ruleSet (.ruleSet rs))
        Action.setRules handle next
        return .builder handle : Action Value) := rfl
      rw [step, ruleSet_ruleSet, ← here]
      rfl
  | build =>
      change (Except.ok (Value.ruleSet (w.builderAt handle).build), w) =
        (.ok (.ruleSet ⟨b.rules⟩), w.withRules handle (b.rules ++ []))
      rw [here, List.append_nil, withRules_of_holds holds]
      rfl
  | reset => rfl

/-! ### Commands and variables -/

/-- To store its answer a command changes variables alone. -/
theorem run_eq (w : Workspace) (c : Command) (target : Option String) :
    ∃ bindings, w.run c target =
      ((c.action.run.run w).1, { (c.action.run.run w).2 with bindings := bindings }) := by
  unfold run
  obtain ⟨answer, w'⟩ := c.action.run.run w
  cases answer with
  | error trouble => cases target <;> exact ⟨_, rfl⟩
  | ok v => cases target <;> exact ⟨_, rfl⟩

theorem answer_run (w : Workspace) (c : Command) (target : Option String) :
    (w.run c target).1 = (c.action.run.run w).1 := by
  obtain ⟨bindings, eq⟩ := w.run_eq c target
  rw [eq]

theorem builders_run (w : Workspace) (c : Command) (target : Option String) :
    (w.run c target).2.builders = (c.action.run.run w).2.builders := by
  obtain ⟨bindings, eq⟩ := w.run_eq c target
  rw [eq]

theorem registries_run (w : Workspace) (c : Command) (target : Option String) :
    (w.run c target).2.registries = (c.action.run.run w).2.registries := by
  obtain ⟨bindings, eq⟩ := w.run_eq c target
  rw [eq]

/-- A command changes no variable but the one for its answer. -/
theorem lookup_run {name : String} {target : Option String} (differ : target ≠ some name)
    (w : Workspace) (c : Command) :
    (w.run c target).2.bindings.lookup name = (c.action.run.run w).2.bindings.lookup name := by
  unfold run
  obtain ⟨answer, w'⟩ := c.action.run.run w
  cases target with
  | none => cases answer <;> rfl
  | some other =>
      have apart : name ≠ other := fun same => differ (congrArg some same.symm)
      cases answer with
      | error trouble => exact lookup_filter_ne apart w'.bindings
      | ok v => simp [assign, List.lookup_cons, beq_false_of_ne apart, lookup_filter_ne apart]

/-- A command stores its answer in the variable for it. -/
theorem lookup_run_target {c : Command} {v : Value} (ok : (c.action.run.run w).1 = .ok v)
    (name : String) : (w.run c (some name)).2.bindings.lookup name = some v := by
  unfold run
  generalize c.action.run.run w = outcome at ok ⊢
  obtain ⟨answer, w'⟩ := outcome
  obtain rfl : answer = .ok v := ok
  simp [assign]

/-! ### Operations of a builder -/

/-- What an operation of a builder answers with. -/
theorem answer_run_command (holds : w.Holds handle b) (op : Builder.Operation)
    (target : Option String) :
    (w.run (op.command handle) target).1 =
      match op.adds b.registry with
      | .error f => .error (.fault (Host.standard.raise f))
      | .ok _ => .ok (op.answer handle b.rules) := by
  rw [answer_run, action_command holds]
  cases op.adds b.registry with
  | error f => rfl
  | ok added => rfl

/-- After an operation a handle has the builder with what the operation has added. -/
theorem holds_run (holds : w.Holds handle b) (op : Builder.Operation) (target : Option String) :
    (w.run (op.command handle) target).2.Holds handle (b.after op) := by
  -- what a handle holds is read off the builders and registries, which the variable leaves alone
  suffices acted : ((op.command handle).action.run.run w).2.Holds handle (b.after op) by
    obtain ⟨cell, there, same⟩ := acted
    refine ⟨cell, ?_, ?_⟩
    · rw [builders_run, there]
    · rw [same, registryAt, registryAt, registries_run]
  rw [action_command holds, Builder.after]
  cases op.adds b.registry with
  | error f => exact holds
  | ok added => exact holds_withRules holds (op.kept b.rules ++ added)

/-- An operation that fails leaves every builder as it was. -/
theorem builders_run_error {op : Builder.Operation} {target : Option String} {trouble : Trouble}
    (holds : w.Holds handle b)
    (failed : (w.run (op.command handle) target).1 = .error trouble) :
    (w.run (op.command handle) target).2.builders = w.builders := by
  rw [answer_run_command holds] at failed
  rw [builders_run, action_command holds]
  cases outcome : op.adds b.registry with
  | error f => rfl
  | ok added =>
      rw [outcome] at failed
      cases failed

/-- An operation of a builder changes no variable but the one for its answer. -/
theorem lookup_run_command {name : String} {target : Option String} (holds : w.Holds handle b)
    (differ : target ≠ some name) (op : Builder.Operation) :
    (w.run (op.command handle) target).2.bindings.lookup name = w.bindings.lookup name := by
  -- the operation itself stores nothing in variables, so only the target is left to exclude
  rw [lookup_run differ, action_command holds]
  cases op.adds b.registry with
  | error f => rfl
  | ok added => rfl

/-! ### Sessions -/

/-- Calls operations of a builder, each with the variable for its answer. -/
def perform (w : Workspace) (handle : Nat) :
    List (Builder.Operation × Option String) → Workspace
  | [] => w
  | step :: steps => ((w.run (step.1.command handle) step.2).2).perform handle steps

theorem perform_append (w : Workspace) (handle : Nat)
    (before later : List (Builder.Operation × Option String)) :
    w.perform handle (before ++ later) = (w.perform handle before).perform handle later := by
  induction before generalizing w with
  | nil => rfl
  | cons step before ih => exact ih (w.run (step.1.command handle) step.2).2

theorem holds_perform (holds : w.Holds handle b)
    (steps : List (Builder.Operation × Option String)) :
    (w.perform handle steps).Holds handle (b.afterAll (steps.map Prod.fst)) := by
  induction steps generalizing w b with
  | nil => exact holds
  | cons step steps ih => exact ih (holds_run holds step.1 step.2)

/-- What is done to a builder changes no variable but those for the answers. -/
theorem lookup_perform {name : String} {steps : List (Builder.Operation × Option String)}
    (holds : w.Holds handle b) (differ : ∀ step ∈ steps, step.2 ≠ some name) :
    (w.perform handle steps).bindings.lookup name = w.bindings.lookup name := by
  induction steps generalizing w b with
  | nil => rfl
  | cons step steps ih =>
      obtain ⟨here, later⟩ := List.forall_mem_cons.mp differ
      have rest := ih (holds_run holds step.1 step.2) later
      exact rest.trans (lookup_run_command holds here step.1)

/-- A builder that has just been made holds no rules. -/
theorem holds_make (w : Workspace) (a : Arguments) (target : Option String) :
    ∃ handle reg, (w.run (.make "RuleSetBuilder" a) target).1 = .ok (.builder handle) ∧
      (w.run (.make "RuleSetBuilder" a) target).2.Holds handle (Builder.new reg) := by
  obtain ⟨registry, w', made⟩ : ∃ registry w',
      (Action.registryOf (a.getD 0 "registry" .none)).run.run w = (.ok registry, w') := by
    unfold Action.registryOf
    split
    · exact ⟨_, _, rfl⟩
    · exact ⟨_, _, rfl⟩
  have acted : (Command.make "RuleSetBuilder" a).action.run.run w =
      (.ok (.builder w'.builders.length),
        { w' with builders := w'.builders ++ [⟨registry, []⟩] }) := by
    change (do
      let handle ← Action.registryOf (a.getD 0 "registry" .none)
      return .builder (← Action.newBuilder ⟨handle, []⟩) : Action Value).run.run w = _
    rw [ExceptT.run_bind, StateT.run_bind, made]
    rfl
  refine ⟨w'.builders.length, w'.registryAt registry, ?_, ⟨registry, []⟩, ?_, ?_⟩
  · rw [answer_run, acted]
  · rw [builders_run, acted]
    simp
  · rw [registryAt, registryAt, registries_run, acted]
    rfl

/-- A builder builds what it holds. -/
theorem answer_run_build (holds : w.Holds handle b) (target : Option String) :
    (w.run (Builder.Operation.build.command handle) target).1 = .ok (.ruleSet ⟨b.rules⟩) :=
  answer_run_command holds .build target

/-- A rule set that was built stays in its variable whatever is done to the builder. -/
theorem lookup_perform_build {name : String}
    {before later : List (Builder.Operation × Option String)} (holds : w.Holds handle b)
    (differ : ∀ step ∈ later, step.2 ≠ some name) :
    (w.perform handle (before ++ (.build, some name) :: later)).bindings.lookup name =
      some (.ruleSet ⟨(b.afterAll (before.map Prod.fst)).rules⟩) := by
  have reached := holds_perform holds before
  have built := answer_run_build reached (some name)
  rw [answer_run] at built
  rw [perform_append, perform, lookup_perform (holds_run reached .build (some name)) differ]
  exact lookup_run_target built name

/-- After any operations a builder builds the rules that the successful ones have added since the
last reset, in the order of the calls. An operation succeeds when there are rules for it to add, and
one that fails leaves every builder as it was. What an earlier operation has built stays as it was
built. -/
theorem perform_build (holds : w.Holds handle b)
    (steps : List (Builder.Operation × Option String)) :
    (∃ rules,
      (∀ target, ((w.perform handle steps).run (Builder.Operation.build.command handle) target).1 =
        .ok (.ruleSet ⟨rules⟩)) ∧
      ((∀ step ∈ steps, step.1 ≠ .reset) →
        rules = b.rules ++ steps.flatMap fun step => step.1.added b.registry) ∧
      ∀ earlier target later, steps = earlier ++ (.reset, target) :: later →
        (∀ step ∈ later, step.1 ≠ .reset) →
        rules = later.flatMap fun step => step.1.added b.registry) ∧
    (∀ (op : Builder.Operation) target,
      ((∃ v, ((w.perform handle steps).run (op.command handle) target).1 = .ok v) ↔
        ∃ rules, op.adds b.registry = .ok rules) ∧
      ∀ trouble, ((w.perform handle steps).run (op.command handle) target).1 = .error trouble →
        ((w.perform handle steps).run (op.command handle) target).2.builders =
          (w.perform handle steps).builders) ∧
    ∀ before name later, steps = before ++ (.build, some name) :: later →
      (∀ step ∈ later, step.2 ≠ some name) →
      ∃ rules,
        ((w.perform handle before).run (Builder.Operation.build.command handle) (some name)).1 =
          .ok (.ruleSet ⟨rules⟩) ∧
        (w.perform handle steps).bindings.lookup name = some (.ruleSet ⟨rules⟩) := by
  have reached := holds_perform holds steps
  refine ⟨⟨_, answer_run_build reached, ?_, ?_⟩, ?_, ?_⟩
  · intro keep
    rw [Builder.rules_afterAll (by simpa using keep), List.flatMap_map]
  · rintro earlier target later rfl keep
    rw [List.map_append, List.map_cons, Builder.rules_afterAll_reset (by simpa using keep),
      List.flatMap_map]
  · intro op target
    refine ⟨?_, fun trouble failed => builders_run_error reached failed⟩
    rw [answer_run_command reached, Builder.registry_afterAll]
    cases op.adds b.registry with
    | error f => simp
    | ok added => simp
  · rintro before name later rfl differ
    exact ⟨_, answer_run_build (holds_perform holds before) (some name),
      lookup_perform_build holds differ⟩

/-- A rule that a name is filled. -/
def nameFilled : Rule := ⟨.plain "name", .bound (Builtin.filled.predicate 1) []⟩

/-- A rule set is built, the builder is extended with it, and then it is given a parameter too many
and a path that is no text. -/
def selfExtension : List (Builder.Operation × Option String) :=
  [(.validates (.ofString "name") (.ofString "filled?") [], none), (.build, some "first"),
    (.extend ⟨[nameFilled]⟩, none),
    (.validates (.ofString "name") (.ofString "filled?") [.int 3], some "second"),
    (.rule .none (.expr nameFilled.expr), none)]

/-- The builder has the rule twice, the rule set that was built first has it once. -/
theorem perform_selfExtension :
    let w := (empty.run (.make "RuleSetBuilder" ⟨[], []⟩) (some "builder")).2
    w.Holds 0 (Builder.new (.standard 1)) ∧
      ((w.perform 0 selfExtension).run (Builder.Operation.build.command 0) none).1 =
        .ok (.ruleSet ⟨[nameFilled, nameFilled]⟩) ∧
      (w.perform 0 selfExtension).bindings.lookup "first" = some (.ruleSet ⟨[nameFilled]⟩) := by
  intro w
  have holds : w.Holds 0 (Builder.new (.standard 1)) := ⟨⟨0, []⟩, rfl, rfl⟩
  have found : (Registry.standard 1).resolve "filled?" = .ok (Builtin.filled.predicate 1) :=
    Registry.resolve_standard 1 .filled
  have key : (Value.ofString "filled?").nameKey = "filled?" := rfl
  have accepted : (Builder.Operation.validates (.ofString "name") (.ofString "filled?") []).added
      (.standard 1) = [nameFilled] := by
    rw [Builder.Operation.added, Builder.Operation.adds, key, found]
    rfl
  have refused : (Builder.Operation.validates (.ofString "name") (.ofString "filled?")
      [.int 3]).added (.standard 1) = [] := by
    rw [Builder.Operation.added, Builder.Operation.adds, key, found]
    rfl
  have extended : (Builder.Operation.extend ⟨[nameFilled]⟩).added (.standard 1) = [nameFilled] := rfl
  have unreadable : (Builder.Operation.rule .none (.expr nameFilled.expr)).added (.standard 1) = [] :=
    rfl
  have idle : Builder.Operation.build.added (.standard 1) = [] := rfl
  obtain ⟨⟨rules, built, kept, -⟩, -, snapshots⟩ := perform_build holds selfExtension
  refine ⟨holds, ?_, ?_⟩
  · have all : rules = [nameFilled, nameFilled] := by
      rw [kept (by simp [selfExtension])]
      simp [selfExtension, Builder.new, accepted, refused, extended, unreadable, idle]
    rw [built none, all]
  · obtain ⟨first, earlier, stored⟩ :=
      snapshots (selfExtension.take 1) "first" (selfExtension.drop 2) rfl (by simp [selfExtension])
    obtain ⟨⟨rules', built', kept', -⟩, -, -⟩ := perform_build holds (selfExtension.take 1)
    have once : rules' = [nameFilled] := by
      rw [kept' (by simp [selfExtension])]
      simp [selfExtension, Builder.new, accepted]
    have same := (built' (some "first")).symm.trans earlier
    rw [once] at same
    cases same
    exact stored

end Workspace

end RecordRules
