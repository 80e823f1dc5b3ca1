import RecordRules.Value.Display

/-!
Runs: what a computation answers, and what happens on the way.

A run ends in a value or in a fault. Either way it leaves a history: every path that is resolved,
every call of a predicate and every entry of the log, in order. A fault ends a run, so the history
of two runs in a row is that of the first alone when the first one fails.
-/

namespace RecordRules

inductive LogEntry where
  /-- An evaluation is complete. -/
  | summary (rules failures : Nat)
  /-- A rule failed. -/
  | failed (e : Error)
  /-- A predicate failed with a fault. -/
  | broken (path ruleName origin : Value)
  /-- A record failed while a path was read. -/
  | unresolved (path : Label) (ruleName : String) (f : Fault)

/-- The level and the text of an entry. -/
def LogEntry.text : LogEntry → String × String
  | .summary rules failures =>
    ("DEBUG", "Evaluated " ++ Number.showNat rules ++ " rule(s): " ++ Number.showNat failures ++
      " failure(s)")
  | .failed e =>
    ("DEBUG", "Rule '" ++ e.ruleName.shown ++ "' failed for '" ++ e.path.shown ++ "' (expected=" ++
      e.expected.literal ++ ", actual=" ++ e.actual.literal ++ ")")
  | .broken path ruleName origin =>
    ("ERROR", "Predicate '" ++ ruleName.shown ++ "' failed on attribute '" ++ path.shown ++ "': " ++
      origin.shown)
  | .unresolved path ruleName f =>
    ("ERROR", "Resolving attribute '" ++ path.shown ++ "' for rule '" ++ ruleName ++ "' raised " ++
      f.className ++ ": " ++ f.message)

inductive Event where
  /-- A path is resolved on a record. -/
  | resolved (path : Label)
  /-- A predicate is asked about a value. -/
  | called (p : Predicate) (v : Value) (params : List Value)
  | logged (entry : LogEntry)

/-- The answer of a computation and its history. -/
@[ext] structure Run (α : Type) where
  answer : Except Fault α
  events : List Event

namespace Run

variable {α β : Type}

/-- An answer without any history. -/
def ofExcept (answer : Except Fault α) : Run α := ⟨answer, []⟩

def fail (f : Fault) : Run α := ⟨.error f, []⟩

/-- A run with something that happened before it. -/
def after (events : List Event) (x : Run α) : Run α := ⟨x.answer, events ++ x.events⟩

/-- One run after another, unless the first one fails. -/
def bind (x : Run α) (f : α → Run β) : Run β :=
  match x.answer with
  | .ok a => (f a).after x.events
  | .error e => ⟨.error e, x.events⟩

instance : Monad Run where
  pure a := ⟨.ok a, []⟩
  bind := bind

@[simp] theorem answer_pure (a : α) : (pure a : Run α).answer = .ok a := rfl

@[simp] theorem events_pure (a : α) : (pure a : Run α).events = [] := rfl

@[simp] theorem answer_after (events : List Event) (x : Run α) :
    (x.after events).answer = x.answer := rfl

@[simp] theorem events_after (events : List Event) (x : Run α) :
    (x.after events).events = events ++ x.events := rfl

@[simp] theorem after_nil (x : Run α) : x.after [] = x := rfl

theorem after_after (events events' : List Event) (x : Run α) :
    (x.after events').after events = x.after (events ++ events') :=
  Run.ext rfl (List.append_assoc _ _ _).symm

/-- After an answer the run goes on. -/
theorem bind_ok {x : Run α} {a : α} (answered : x.answer = .ok a) (f : α → Run β) :
    x >>= f = (f a).after x.events := by
  change bind x f = _
  rw [bind, answered]

/-- After a fault nothing more happens. -/
theorem bind_error {x : Run α} {e : Fault} (failed : x.answer = .error e) (f : α → Run β) :
    x >>= f = ⟨.error e, x.events⟩ := by
  change bind x f = _
  rw [bind, failed]

/-- The answer of two runs in a row. -/
theorem answer_bind (x : Run α) (f : α → Run β) :
    (x >>= f).answer = x.answer >>= fun a => (f a).answer := by
  cases answer : x.answer with
  | ok a => rw [bind_ok answer]; rfl
  | error e => rw [bind_error answer]; rfl

/-- What happened before a run does not matter to what comes after it. -/
theorem after_bind (events : List Event) (x : Run α) (f : α → Run β) :
    x.after events >>= f = (x >>= f).after events := by
  cases answer : x.answer with
  | ok a =>
      rw [bind_ok answer, bind_ok (x := x.after events) answer]
      exact Run.ext rfl (List.append_assoc _ _ _)
  | error e => rw [bind_error answer, bind_error (x := x.after events) answer]; rfl

instance : LawfulMonad Run :=
  LawfulMonad.mk' Run
    (fun x => by
      cases answer : x.answer with
      | ok a =>
          change x >>= _ = x
          rw [bind_ok answer]
          exact Run.ext answer.symm (List.append_nil _)
      | error e =>
          change x >>= _ = x
          rw [bind_error answer]
          exact Run.ext answer.symm rfl)
    (fun a f => bind_ok rfl f)
    (fun x f g => by
      cases answer : x.answer with
      | error e => rw [bind_error answer, bind_error answer, bind_error rfl]
      | ok a => rw [bind_ok answer, bind_ok answer, after_bind])

theorem map_after (events : List Event) (f : α → β) (x : Run α) :
    f <$> x.after events = (f <$> x).after events := by
  rw [map_eq_pure_bind, map_eq_pure_bind, after_bind]

def emit (e : Event) : Run Unit := ⟨.ok (), [e]⟩

/-- The calls of predicates in a history. -/
def callsOf (events : List Event) : List (Predicate × Value × List Value) :=
  events.filterMap fun
    | .called p v params => some (p, v, params)
    | .resolved _ | .logged _ => none

def logOf (events : List Event) : List LogEntry :=
  events.filterMap fun
    | .logged entry => some entry
    | .resolved _ | .called _ _ _ => none

end Run

end RecordRules
