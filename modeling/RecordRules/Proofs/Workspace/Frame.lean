import RecordRules.Workspace.Command

/-!
What commands leave alone.

Most commands make, read and combine values. They may log, take new tags or put a registry or a
builder next to those that are there, but they change no variable and no registry
(`Workspace.Extends`). The exceptions are the four operations that write to a registry
(`Command.extends_action`).
-/

namespace RecordRules

namespace Workspace

/-- Between two workspaces no variable has changed, and registries have only been added. -/
structure Extends (w w' : Workspace) : Prop where
  bindings : w'.bindings = w.bindings
  registries : w.registries <+: w'.registries

variable {w w' w'' : Workspace}

theorem Extends.refl (w : Workspace) : w.Extends w :=
  ⟨rfl, List.prefix_rfl⟩

theorem Extends.trans (first : w.Extends w') (second : w'.Extends w'') : w.Extends w'' :=
  ⟨second.bindings.trans first.bindings, first.registries.trans second.registries⟩

theorem Extends.registryAt (kept : w.Extends w') {handle : Nat}
    (there : handle < w.registries.length) : w'.registryAt handle = w.registryAt handle := by
  obtain ⟨added, split⟩ := kept.registries
  simp only [Workspace.registryAt, ← split, List.getElem?_append_left there]

end Workspace

namespace Action

variable {α β : Type}

/-- An action only ever extends the workspace. -/
def Extends (x : Action α) : Prop :=
  ∀ w : Workspace, w.Extends (x.run.run w).2

/-! ### Steps of actions -/

@[grind ←]
theorem extends_pure (a : α) : Extends (pure a) :=
  Workspace.Extends.refl

@[grind ←]
theorem extends_throw (trouble : Trouble) : Extends (throw trouble : Action α) :=
  Workspace.Extends.refl

@[grind ←]
theorem extends_get : Extends (get : Action Workspace) :=
  Workspace.Extends.refl

@[grind ←]
theorem Extends.bind {x : Action α} {f : α → Action β} (first : x.Extends)
    (next : ∀ a, (f a).Extends) : (x >>= f).Extends := by
  intro w
  have reached := first w
  rw [ExceptT.run_bind, StateT.run_bind]
  cases outcome : x.run.run w with
  | mk answer w' =>
      rw [outcome] at reached
      cases answer with
      | ok a => exact reached.trans (next a w')
      | error trouble => exact reached

@[grind ←]
theorem extends_fault (f : Fault) : Extends (fault f : Action α) :=
  extends_throw (.fault f)

@[grind ←]
theorem extends_noPart (v : Value) (name : String) : Extends (noPart v name : Action α) :=
  extends_fault _

@[grind ←]
theorem extends_unsupported (message : String) : Extends (unsupported message : Action α) :=
  extends_fault _

@[grind ←]
theorem extends_ofExcept (x : Except Fault α) : (ofExcept x).Extends := by
  cases x with
  | ok a => exact extends_pure a
  | error f => exact extends_fault f

@[grind ←]
theorem extends_made (x : Except Fault α) : (made x).Extends := extends_ofExcept _

@[grind ←]
theorem extends_ofRun (x : Run α) : (ofRun x).Extends :=
  Extends.bind (fun _ => ⟨rfl, List.prefix_rfl⟩) fun _ => extends_ofExcept x.answer

@[grind ←]
theorem extends_newTags (count : Nat) : (newTags count).Extends :=
  fun _ => ⟨rfl, List.prefix_rfl⟩

@[grind ←]
theorem extends_newRegistry (reg : Registry) : (newRegistry reg).Extends :=
  fun w => ⟨rfl, List.prefix_append w.registries [reg]⟩

@[grind ←]
theorem extends_newStandardRegistry : newStandardRegistry.Extends := by
  unfold newStandardRegistry
  grind

@[grind ←]
theorem extends_newBuilder (cell : BuilderCell) : (newBuilder cell).Extends :=
  fun _ => ⟨rfl, List.prefix_rfl⟩

@[grind ←]
theorem extends_setRules (handle : Nat) (b : Builder) : (setRules handle b).Extends :=
  fun _ => ⟨rfl, List.prefix_rfl⟩

@[grind ←]
theorem extends_itemsOf (v : Value) : (itemsOf v).Extends := by
  unfold itemsOf
  grind

/-! ### Making objects -/

@[grind ←]
theorem extends_required (a : Arguments) (owner : String) (offset : Nat) (names : List String) :
    (a.required owner offset names).Extends := by
  unfold Arguments.required
  grind

@[grind ←]
theorem extends_registryOf (v : Value) : (registryOf v).Extends := by
  unfold registryOf
  grind

@[grind ←]
theorem extends_functionPredicate (name f arity : Value) :
    (functionPredicate name f arity).Extends := by
  unfold functionPredicate
  grind

@[grind ←]
theorem extends_boundPredicate (p : Value) (params : List Value) :
    (boundPredicate p params).Extends := by
  unfold boundPredicate
  grind

@[grind ←]
theorem extends_ruleSet (v : Value) : (ruleSet v).Extends := by
  unfold ruleSet
  grind

@[grind ←]
theorem extends_errorsOf (vs : List Value) : (errorsOf vs).Extends := by
  induction vs with
  | nil => exact extends_pure []
  | cons v vs ih =>
      unfold errorsOf
      grind

@[grind ←]
theorem extends_evaluate (c : Config) (rules record : Value) :
    (evaluate c rules record).Extends := by
  unfold evaluate
  grind

@[grind ←]
theorem extends_validatorClass (name rules evaluator : Option Value) :
    (validatorClass name rules evaluator).Extends := by
  unfold validatorClass
  grind

@[grind ←]
theorem extends_validator (cls record : Value) : (validator cls record).Extends := by
  unfold validator
  grind

@[grind ←]
theorem extends_evaluator (settings : Value) : (evaluator settings).Extends := by
  unfold evaluator
  grind

@[grind ←]
theorem extends_madeFault (what : String) (a : Arguments) : (madeFault what a).Extends := by
  unfold madeFault
  grind

@[grind ←]
theorem extends_makeRules (what : String) (a : Arguments) : (makeRules what a).Extends := by
  unfold makeRules
  grind

theorem extends_make (what : String) (a : Arguments) : (make what a).Extends := by
  unfold make
  grind

/-! ### Operators and parts -/

@[grind ←]
theorem extends_noOperator (sign : String) (a b : Value) :
    Extends (noOperator sign a b : Action α) :=
  extends_unsupported _

@[grind ←]
theorem extends_combineTwo (c : Connective) (sign : String) (a b : Value) :
    (combineTwo c sign a b).Extends := by
  unfold combineTwo
  grind

@[grind ←]
theorem extends_item (v key : Value) : (item v key).Extends := by
  unfold item
  grind

@[grind ←]
theorem extends_sameHash (a b : Value) : (sameHash a b).Extends := by
  unfold sameHash
  grind

theorem extends_binary (op : String) (a b : Value) : (binary op a b).Extends := by
  unfold binary
  grind

@[grind ←]
theorem extends_copied (v : Value) : (copied v).Extends := by
  unfold copied
  grind

theorem extends_unary (op : String) (v : Value) : (unary op v).Extends := by
  unfold unary
  grind

theorem extends_part (v : Value) (name : String) : (part v name).Extends := by
  unfold part
  grind

theorem extends_setPart (v : Value) (name : String) : (setPart v name).Extends := by
  unfold setPart
  grind

/-! ### Operations of objects -/

@[grind ←]
theorem extends_callPredicate (p : Predicate) (method : String) (a : Arguments) :
    (callPredicate p method a).Extends := by
  unfold callPredicate
  grind

@[grind ←]
theorem extends_callExpr (e : Expr) (method : String) (a : Arguments) :
    (callExpr e method a).Extends := by
  unfold callExpr
  grind

@[grind ←]
theorem extends_callRule (r : Rule) (method : String) (a : Arguments) :
    (callRule r method a).Extends := by
  unfold callRule
  grind

@[grind ←]
theorem extends_errorsFor (es : ErrorSet) (path : Value) : (errorsFor es path).Extends := by
  unfold errorsFor
  grind

@[grind ←]
theorem extends_callErrorSet (es : ErrorSet) (method : String) (a : Arguments) :
    (callErrorSet es method a).Extends := by
  unfold callErrorSet
  grind

@[grind ←]
theorem extends_callBuilder (handle : Nat) (method : String) (a : Arguments) :
    (callBuilder handle method a).Extends := by
  unfold callBuilder
  grind

@[grind ←]
theorem extends_callEvaluator (c : Config) (method : String) (a : Arguments) :
    (callEvaluator c method a).Extends := by
  unfold callEvaluator
  grind

/-- The operations that write to a registry. -/
def writers : List String :=
  ["register", "register_all", "register_func", "unregister"]

@[grind ←]
theorem extends_callRegistry {method : String} (reads : method ∉ writers) (handle : Nat)
    (a : Arguments) : (callRegistry handle method a).Extends := by
  unfold callRegistry
  grind [writers]

theorem extends_call {v : Value} {method : String}
    (reads : ∀ handle, v = .registry handle → method ∉ writers) (a : Arguments) :
    (call v method a).Extends := by
  unfold call
  grind

end Action

end RecordRules
