import RecordRules.Proofs.Document.Denotation
import RecordRules.Proofs.Registry.History
import RecordRules.Proofs.Workspace.Building
import RecordRules.Proofs.Workspace.Frame

/-!
Registries and rule sets in sessions.

A session runs commands of all kinds. A command extends the workspace, or it is one of the four
operations that write to the registry behind a handle (`Workspace.action_cases`). So after a session
a registry is what the writes to it have made of it (`Workspace.registryAt_after`), and all its
answers about a name follow from the last write about that name. A rule set holds the predicates
that it was made with, so what happens to a registry afterwards shows in no answer about it
(`Workspace.finds_last_registered`).
-/

namespace RecordRules

open Registry (Write)

/-! ### What commands write -/

/-- The predicates that are registered when some values are, which stops before the first value
that is no predicate. -/
def Registry.puts : List Value → List Write
  | .predicate p :: vs => .put p :: puts vs
  | _ => []

/-- What an operation of a registry writes, where `tag` is the next new tag. A function becomes a
predicate unless the number of its parameters is negative or no number. -/
def Arguments.writes (tag : Nat) (method : String) (a : Arguments) : List Write :=
  match method with
  | "register" => Registry.puts [a.getD 0 "predicate" .none]
  | "register_all" => Registry.puts a.positional
  | "register_func" =>
    match (a.getD 2 "arity" (.int 0)).integer? with
    | some n =>
      if n < 0 then []
      else
        [.put (.custom tag (a.getD 0 "name" .none) (a.getD 1 "fn" .none).asFunction n.toNat)]
    | none => []
  | "unregister" => [.remove (a.getD 0 "name" .none).nameKey]
  | _ => []

theorem Arguments.writes_eq_nil {method : String} (reads : method ∉ Action.writers) (tag : Nat)
    (a : Arguments) : a.writes tag method = [] := by
  unfold writes
  split
  all_goals first | rfl | exact absurd (by decide) reads

/-- What a command writes to the registry behind a handle. -/
def Command.writes (w : Workspace) (handle : Nat) : Command → List Write
  | .call (.registry h) method a => if h = handle then a.writes w.nextTag method else []
  | _ => []

theorem Predicate.key_custom (tag : Nat) (name : Value) (f : Function) (n : Nat) :
    (Predicate.custom tag name f n).key = name.nameKey := by
  cases name <;> rfl

namespace Workspace

variable {w w' : Workspace} {handle : Nat}

/-- Between two workspaces some writes were made to the registry behind a handle, and no variable
and no other registry has changed. -/
structure Writes (h : Nat) (xs : List Write) (w w' : Workspace) : Prop where
  bindings : w'.bindings = w.bindings
  registries : w'.registries = w.registries.set h ((w.registryAt h).writeAll xs)

theorem set_registryAt (w : Workspace) (h : Nat) :
    w.registries.set h (w.registryAt h) = w.registries := by
  by_cases there : h < w.registries.length
  · have found : w.registryAt h = w.registries[h] := by simp [registryAt, there]
    rw [found, List.set_getElem_self]
  · exact List.set_eq_of_length_le (Nat.le_of_not_lt there)

theorem Writes.refl (h : Nat) (w : Workspace) : w.Writes h [] w :=
  ⟨rfl, (w.set_registryAt h).symm⟩

theorem Writes.trans {h : Nat} {xs ys : List Write} {w'' : Workspace} (first : w.Writes h xs w')
    (second : w'.Writes h ys w'') : w.Writes h (xs ++ ys) w'' := by
  refine ⟨second.bindings.trans first.bindings, ?_⟩
  rw [second.registries, first.registries, List.set_set, Registry.writeAll_append]
  by_cases there : h < w.registries.length
  · have found : w'.registryAt h = (w.registryAt h).writeAll xs := by
      simp [registryAt, first.registries, there]
    rw [found]
  · rw [List.set_eq_of_length_le (Nat.le_of_not_lt there),
      List.set_eq_of_length_le (Nat.le_of_not_lt there)]

theorem writes_register (h : Nat) (v : Value) (w : Workspace) :
    w.Writes h (Registry.puts [v]) ((Action.register h v).run.run w).2 := by
  cases v with
  | predicate p => exact ⟨rfl, rfl⟩
  | _ => exact .refl h w

theorem writes_registerAll (h : Nat) (vs : List Value) (w : Workspace) :
    w.Writes h (Registry.puts vs) ((Action.registerAll h vs).run.run w).2 := by
  induction vs generalizing w with
  | nil => exact .refl h w
  | cons v vs ih =>
      have first := writes_register h v w
      cases v with
      | predicate p => exact first.trans (ih _)
      | _ => exact first

/-- To answer with a value changes nothing. -/
theorem state_return (x : Action Unit) (v : Value) (w : Workspace) :
    ((do x; return v : Action Value).run.run w).2 = (x.run.run w).2 := by
  rw [ExceptT.run_bind, StateT.run_bind]
  obtain ⟨answer, w'⟩ := x.run.run w
  cases answer with
  | ok _ => rfl
  | error _ => rfl

/-- A function becomes a predicate with a new tag, and that is registered. With a negative number of
parameters it is refused. -/
theorem run_register_func {a : Arguments} {n : Int}
    (count : (a.getD 2 "arity" (.int 0)).integer? = some n) (w : Workspace) (h : Nat) :
    (Action.callRegistry h "register_func" a).run.run w =
      let p := .custom w.nextTag (a.getD 0 "name" .none) (a.getD 1 "fn" .none).asFunction n.toNat
      if n < 0 then
        (.error (.fault (.ofMessage .value "arity must be >= 0")),
          { w with nextTag := w.nextTag + 1 })
      else
        (.ok (.predicate p),
          { w with
            nextTag := w.nextTag + 1
            registries := w.registries.set h ((w.registryAt h).register p) }) := by
  have step : (Action.callRegistry h "register_func" a).run.run w =
      (do
        let p ← Action.functionPredicate (a.getD 0 "name" .none) (a.getD 1 "fn" .none)
          (a.getD 2 "arity" (.int 0))
        Action.setRegistry h ((w.registryAt h).register p)
        return .predicate p : Action Value).run.run w := rfl
  rw [step, Action.functionPredicate]
  by_cases negative : n < 0
  · simp only [count, Predicate.ofFunction, if_pos negative]
    rfl
  · simp only [count, Predicate.ofFunction, if_neg negative]
    rfl

/-- What an operation of a registry does to the workspace. -/
theorem writes_callRegistry {method : String} (writer : method ∈ Action.writers) (h : Nat)
    (a : Arguments) (w : Workspace) :
    w.Writes h (a.writes w.nextTag method) ((Action.callRegistry h method a).run.run w).2 := by
  simp only [Action.writers, List.mem_cons, List.not_mem_nil, or_false] at writer
  rcases writer with rfl | rfl | rfl | rfl
  · have step : ((Action.callRegistry h "register" a).run.run w).2 =
        ((do Action.register h (a.getD 0 "predicate" .none); return .none : Action Value).run.run
          w).2 := rfl
    rw [step, state_return]
    exact writes_register h _ w
  · have step : ((Action.callRegistry h "register_all" a).run.run w).2 =
        ((do Action.registerAll h a.positional; return .none : Action Value).run.run w).2 := rfl
    rw [step, state_return]
    exact writes_registerAll h a.positional w
  · simp only [Arguments.writes]
    cases count : (a.getD 2 "arity" (.int 0)).integer? with
    | none =>
        have unchanged : ((Action.callRegistry h "register_func" a).run.run w).2 = w := by
          simp only [Action.callRegistry, Action.functionPredicate, count]
          rfl
        rw [unchanged]
        exact .refl h w
    | some n =>
        rw [run_register_func count]
        by_cases negative : n < 0
        · simp only [if_pos negative]
          exact ⟨rfl, (w.set_registryAt h).symm⟩
        · simp only [if_neg negative]
          exact ⟨rfl, rfl⟩
  · exact ⟨rfl, rfl⟩

theorem Writes.registryAt {h : Nat} {xs : List Write} (written : w.Writes h xs w')
    (there : handle < w.registries.length) :
    handle < w'.registries.length ∧
      w'.registryAt handle = (w.registryAt handle).writeAll (if h = handle then xs else []) := by
  refine ⟨by simpa [written.registries] using there, ?_⟩
  by_cases same : h = handle
  · subst same
    simp [Workspace.registryAt, written.registries, there]
  · simp [Workspace.registryAt, written.registries, same, Registry.writeAll]

/-- A command extends the workspace and writes to no registry, or it writes behind one handle. -/
theorem action_cases (c : Command) (w : Workspace) :
    (c.action.Extends ∧ ∀ handle, c.writes w handle = []) ∨
    ∃ h xs, w.Writes h xs (c.action.run.run w).2 ∧
      ∀ handle, c.writes w handle = if h = handle then xs else [] := by
  cases c with
  | make what a => exact .inl ⟨Action.extends_make what a, fun _ => rfl⟩
  | part v name => exact .inl ⟨Action.extends_part v name, fun _ => rfl⟩
  | setPart v name => exact .inl ⟨Action.extends_setPart v name, fun _ => rfl⟩
  | binary op a b => exact .inl ⟨Action.extends_binary op a b, fun _ => rfl⟩
  | unary op v => exact .inl ⟨Action.extends_unary op v, fun _ => rfl⟩
  | drainLog => exact .inl ⟨fun _ => ⟨rfl, List.prefix_rfl⟩, fun _ => rfl⟩
  | drainNotes => exact .inl ⟨fun _ => ⟨rfl, List.prefix_rfl⟩, fun _ => rfl⟩
  | call v method a =>
      cases v with
      | registry h =>
          by_cases writer : method ∈ Action.writers
          · exact .inr ⟨h, _, writes_callRegistry writer h a w, fun _ => rfl⟩
          · refine .inl ⟨Action.extends_callRegistry writer h a, fun handle => ?_⟩
            rw [Command.writes, a.writes_eq_nil writer, ite_self]
      | _ =>
          refine .inl ⟨Action.extends_call (fun h same => ?_) a, fun _ => rfl⟩
          cases same

theorem bindings_action (c : Command) (w : Workspace) :
    (c.action.run.run w).2.bindings = w.bindings := by
  rcases action_cases c w with ⟨only, -⟩ | ⟨h, xs, written, -⟩
  · exact (only w).bindings
  · exact written.bindings

/-- What stands behind a handle after a command are the writes of the command to it. -/
theorem registryAt_action (there : handle < w.registries.length) (c : Command) :
    handle < (c.action.run.run w).2.registries.length ∧
      (c.action.run.run w).2.registryAt handle =
        (w.registryAt handle).writeAll (c.writes w handle) := by
  rcases action_cases c w with ⟨only, idle⟩ | ⟨h, xs, written, aimed⟩
  · rw [idle]
    exact ⟨Nat.lt_of_lt_of_le there (only w).registries.length_le, (only w).registryAt there⟩
  · rw [aimed]
    exact written.registryAt there

/-! ### Sessions -/

/-- The workspace after some commands, each with the variable for its answer. -/
def after (w : Workspace) : List (Command × Option String) → Workspace
  | [] => w
  | step :: steps => (w.run step.1 step.2).2.after steps

/-- What some commands write to the registry behind a handle. -/
def writes (w : Workspace) (handle : Nat) : List (Command × Option String) → List Write
  | [] => []
  | step :: steps => step.1.writes w handle ++ (w.run step.1 step.2).2.writes handle steps

theorem after_append (w : Workspace) (earlier later : List (Command × Option String)) :
    w.after (earlier ++ later) = (w.after earlier).after later := by
  induction earlier generalizing w with
  | nil => rfl
  | cons step earlier ih => exact ih (w.run step.1 step.2).2

/-- After a session a registry is what its writes have made of it. -/
theorem registryAt_after (there : handle < w.registries.length)
    (steps : List (Command × Option String)) :
    handle < (w.after steps).registries.length ∧
      (w.after steps).registryAt handle =
        (w.registryAt handle).writeAll (w.writes handle steps) := by
  induction steps generalizing w with
  | nil => exact ⟨there, rfl⟩
  | cons step steps ih =>
      obtain ⟨still, reached⟩ := registryAt_action there step.1
      rw [← registries_run w step.1 step.2] at still
      obtain ⟨there', rest⟩ := ih still
      refine ⟨there', rest.trans ?_⟩
      rw [writes, Registry.writeAll_append, ← reached, registryAt, registryAt, registries_run]

/-- A session changes no variable but those for its answers. -/
theorem lookup_after {name : String} {steps : List (Command × Option String)}
    (differ : ∀ step ∈ steps, step.2 ≠ some name) :
    (w.after steps).bindings.lookup name = w.bindings.lookup name := by
  induction steps generalizing w with
  | nil => rfl
  | cons step steps ih =>
      obtain ⟨here, later⟩ := List.forall_mem_cons.mp differ
      refine (ih later).trans ?_
      rw [lookup_run here, bindings_action]

/-! ### Questions -/

/-- The answer of a registry when it is asked about a name. -/
def asked (w : Workspace) (handle : Nat) (method : String) (name : Label) : Except Trouble Value :=
  (w.run (.call (.registry handle) method ⟨[.text name], []⟩) none).1

/-- The answer of an evaluator about a rule set and a record. -/
def evaluated (w : Workspace) (c : Config) (rs : RuleSet) (record : Value) : Except Trouble Value :=
  (w.run (.call (.evaluator c) "evaluate" ⟨[.ruleSet rs, record], []⟩) none).1

/-- A registry finds a predicate under a name, or none: all its answers about the name say so, in
whichever form the name is given, and whatever is bound from the predicate has the name. -/
structure Finds (w : Workspace) (handle : Nat) (name : String) (found : Option Predicate) :
    Prop where
  get : ∀ label : Label, label.text = name →
    w.asked handle "get" label = .ok (found.elim .none .predicate)
  has : ∀ label : Label, label.text = name →
    w.asked handle "has" label = .ok (.bool found.isSome)
  resolve : ∀ label : Label, label.text = name →
    w.asked handle "resolve" label =
      found.elim (.error (.fault (.unknownPredicate (.plain name)
        ((w.registryAt handle).names.map .plain)))) fun p => .ok (.predicate p)
  listed : ∃ names : List String,
    (w.run (.part (.registry handle) "supported_predicates") none).1 =
      .ok (.set false (names.map .ofString)) ∧ (name ∈ names ↔ found.isSome = true)
  keyed : ∀ p ∈ found, p.key = name ∧ ∀ params v,
    (w.run (.make "BoundPredicate" ⟨.predicate p :: params, []⟩) none).1 = .ok v →
      ∃ e, v = .expr e ∧ e.name = name

theorem run_boundPredicate {p : Predicate} {params : List Value} {v : Value}
    (made : (w.run (.make "BoundPredicate" ⟨.predicate p :: params, []⟩) none).1 = .ok v) :
    v = .expr (.bound p params) := by
  rw [answer_run] at made
  change ((do return .expr (← Action.made (Expr.bind p params)) : Action Value).run.run w).1 =
    .ok v at made
  cases bound : Expr.bind p params with
  | error f =>
      rw [bound] at made
      cases made
  | ok e =>
      obtain ⟨-, rfl⟩ := Expr.bindBy_ok_iff.mp bound
      rw [bound] at made
      cases made
      rfl

/-- A registry finds what stands under a name. -/
theorem finds_get? (w : Workspace) (handle : Nat) (name : String) :
    w.Finds handle name ((w.registryAt handle).get? name) where
  get := by
    rintro label rfl
    have answer : w.asked handle "get" label =
        .ok ((((w.registryAt handle).get? label.text).map .predicate).getD .none) := rfl
    rw [answer]
    cases (w.registryAt handle).get? label.text with
    | none => rfl
    | some p => rfl
  has := by
    rintro label rfl
    rfl
  resolve := by
    rintro label rfl
    have answer : w.asked handle "resolve" label =
        ((do return .predicate (← Action.ofExcept ((w.registryAt handle).resolve label.text)) :
          Action Value).run.run w).1 := answer_run w _ none
    rw [answer, Registry.resolve]
    cases (w.registryAt handle).get? label.text with
    | none => rfl
    | some p => rfl
  listed := ⟨_, rfl, Registry.mem_names_iff⟩
  keyed := by
    intro p found
    have key := Registry.key_of_get? found
    refine ⟨key, fun params v made => ⟨_, run_boundPredicate made, key⟩⟩

/-- The answer of an evaluator does not depend on what is in the workspace. -/
theorem evaluated_eq (w : Workspace) (c : Config) (rs : RuleSet) (record : Value) :
    w.evaluated c rs record =
      match (c.evaluate rs record).answer with
      | .ok result => .ok (.result result)
      | .error f => .error (.fault f) := by
  have answer : w.evaluated c rs record =
      ((do return .result (← Action.ofRun (c.evaluate rs record)) : Action Value).run.run w).1 :=
    answer_run w _ none
  rw [answer, Action.ofRun]
  cases (c.evaluate rs record).answer with
  | ok result => rfl
  | error f => rfl

/-- The command that makes a predicate of a function and registers it. -/
def registerFunction (handle : Nat) (name f : Value) (n : Int) : Command :=
  .call (.registry handle) "register_func" ⟨[name, f, .int n], []⟩

/-- A function with a negative number of parameters is refused, and no registry changes. Any other
becomes a predicate that is registered under its name. -/
theorem run_registerFunction (w : Workspace) (handle : Nat) (name f : Value) (n : Int)
    (target : Option String) :
    (n < 0 →
      (w.run (registerFunction handle name f n) target).1 =
        .error (.fault (.ofMessage .value "arity must be >= 0")) ∧
      (w.run (registerFunction handle name f n) target).2.registries = w.registries) ∧
    (0 ≤ n → ∃ p, p.key = name.nameKey ∧
      (w.run (registerFunction handle name f n) target).1 = .ok (.predicate p) ∧
      (registerFunction handle name f n).writes w handle = [.put p]) := by
  have run : (registerFunction handle name f n).action.run.run w = _ :=
    run_register_func (a := ⟨[name, f, .int n], []⟩) rfl w handle
  have writes : (registerFunction handle name f n).writes w handle =
      if n < 0 then [] else [.put (.custom w.nextTag name f.asFunction n.toNat)] := if_pos rfl
  rw [answer_run, registries_run, run, writes]
  constructor
  · intro negative
    simp [if_pos negative]
  · intro natural
    rw [if_neg (Int.not_lt.mpr natural), if_neg (Int.not_lt.mpr natural)]
    exact ⟨_, Predicate.key_custom w.nextTag name f.asFunction n.toNat, rfl, rfl⟩

/-- **A registry holds what was registered last, and rules bind early.** Take any session, with
commands of all kinds. Afterwards a registry finds under a name the predicate that was registered
there last and not removed since, in all its answers and for both forms of the name, and the
predicate has the name itself. A function with a negative number of parameters is refused and
changes no registry, any other is registered. A variable with a rule set that was built before or
during the session keeps it until an answer is stored there, and an evaluator answers about the rule
set and a record as it did when the rule set was built. -/
theorem finds_last_registered {w : Workspace} {handle : Nat} (there : handle < w.registries.length)
    (steps : List (Command × Option String)) :
    (∀ name, ∃ found, (w.after steps).Finds handle name found ∧
      ∀ p, found = some p ↔ (w.registryAt handle).Keeps name p (w.writes handle steps)) ∧
    (∀ (name f : Value) (n : Int) (target : Option String),
      (n < 0 →
        ((w.after steps).run (registerFunction handle name f n) target).1 =
          .error (.fault (.ofMessage .value "arity must be >= 0")) ∧
        ((w.after steps).run (registerFunction handle name f n) target).2.registries =
          (w.after steps).registries) ∧
      (0 ≤ n → ∃ p, p.key = name.nameKey ∧
        ((w.after steps).run (registerFunction handle name f n) target).1 = .ok (.predicate p) ∧
        (registerFunction handle name f n).writes (w.after steps) handle = [.put p])) ∧
    ∀ earlier later name rs, steps = earlier ++ later →
      (w.after earlier).bindings.lookup name = some (.ruleSet rs) →
      (∀ step ∈ later, step.2 ≠ some name) →
      (w.after steps).bindings.lookup name = some (.ruleSet rs) ∧
      ∀ c record, (w.after steps).evaluated c rs record = (w.after earlier).evaluated c rs record ∧
        (w.after steps).evaluated c rs record =
          match (c.evaluate rs record).answer with
          | .ok result => .ok (.result result)
          | .error f => .error (.fault f) := by
  refine ⟨?_, run_registerFunction (w.after steps) handle, ?_⟩
  · intro name
    refine ⟨_, finds_get? (w.after steps) handle name, fun p => ?_⟩
    rw [(registryAt_after there steps).2]
    exact Registry.get?_writeAll_iff
  · rintro earlier later name rs rfl built kept
    have reached : (w.after (earlier ++ later)).bindings.lookup name = some (.ruleSet rs) := by
      rw [after_append, lookup_after kept, built]
    refine ⟨reached, fun c record => ?_⟩
    have answer := evaluated_eq (w.after (earlier ++ later)) c rs record
    exact ⟨answer.trans (evaluated_eq (w.after earlier) c rs record).symm, answer⟩

/-- A rule that a number is even, by the predicate that is registered first. -/
def numberEven : Rule := ⟨.plain "n", .bound (.custom 16 (.ofString "even?") .even 0) []⟩

/-- A predicate for even numbers is registered, and a rule set is made with it. -/
def evenRules : List (Command × Option String) :=
  [(registerFunction 0 (.ofString "even?") (.function .even) 0, some "even"),
    (.make "RuleSet" ⟨[.list [.rule numberEven]], []⟩, some "rules")]

/-- Another predicate is registered under the same name, one with a negative number of parameters is
refused, and a predicate of the library is removed. -/
def replacement : List (Command × Option String) :=
  [(registerFunction 0 (.ofString "even?") (.function .identity) 0, some "even"),
    (registerFunction 0 (.ofString "odd?") (.function .even) (-1), none),
    (.call (.registry 0) "unregister" ⟨[.text (.name (.builtin .eql))], []⟩, none)]

/-- The registry finds the predicate that came last, and the rule set still asks the first: three is
no even number. -/
theorem finds_replacement :
    let w := (empty.run (.make "build_default_registry" ⟨[], []⟩) (some "registry")).2
    0 < w.registries.length ∧
      (w.after (evenRules ++ replacement)).asked 0 "get" (.plain "even?") =
        .ok (.predicate (.custom 17 (.ofString "even?") .identity 0)) ∧
      (w.after (evenRules ++ replacement)).evaluated .standard ⟨[numberEven]⟩
          (.object [("n", .int 3)]) =
        .ok (.result ⟨.ofList [⟨.plain "n", .plain "even?", .none, .int 3⟩]⟩) := by
  intro w
  have there : 0 < w.registries.length := by decide
  obtain ⟨finds, -, early⟩ := finds_last_registered there (evenRules ++ replacement)
  obtain ⟨found, answers, iff⟩ := finds "even?"
  have last : (w.registryAt 0).Keeps "even?" (.custom 17 (.ofString "even?") .identity 0)
      (w.writes 0 (evenRules ++ replacement)) := by
    have written : w.writes 0 (evenRules ++ replacement) =
        [.put (.custom 16 (.ofString "even?") .even 0)] ++
          .put (.custom 17 (.ofString "even?") .identity 0) :: [.remove "eql?"] := rfl
    rw [written]
    exact .put rfl (List.forall_mem_singleton.mpr (by decide))
  have kept : ∀ step ∈ replacement, step.2 ≠ some "rules" := by
    simp [replacement]
  obtain ⟨-, evaluations⟩ := early evenRules replacement "rules" ⟨[numberEven]⟩ rfl rfl kept
  refine ⟨there, ?_, (evaluations .standard _).2⟩
  rw [answers.get _ rfl, (iff _).mpr last]
  rfl

end Workspace

end RecordRules
