import Mathlib.Data.List.Forall2
import RecordRules.Document.Build
import RecordRules.Proofs.Path

/-!
What nodes denote.

A node denotes an expression, and a rule node a rule, by rules that have nothing to do with the
order in which a document is gone through or with the addresses of faults. What a name with
parameters is bound to is left open there; `Registry.Binds` says it for a registry. `build_ok_iff`
and `RuleSet.ofDocumentBy_ok_iff` say that building comes to an answer exactly when there is
something denoted, and then the answer is that.

The expressions that are denoted are those that can be made from the predicates of a registry
(`Expr.MadeFrom`): every leaf is a registered predicate with parameters that it takes, and every
combination has as many operands as it needs.
-/

namespace RecordRules

/-! ### Predicates with their parameters -/

/-- A predicate takes parameters: they are as many as it asks for, and its check passes. -/
structure Predicate.Takes (checks : Checks) (p : Predicate) (params : List Value) : Prop where
  count : params.length = p.arity
  check : checks p params = .ok ()

theorem Expr.bindBy_ok_iff {checks : Checks} {p : Predicate} {params : List Value} {e : Expr} :
    Expr.bindBy checks p params = .ok e ↔ p.Takes checks params ∧ e = .bound p params := by
  unfold Expr.bindBy
  constructor
  · intro h
    split at h
    · exact nomatch h
    · rename_i count
      obtain ⟨_, check, h⟩ := Except.bind_ok_iff.mp h
      exact ⟨⟨not_not.mp count, check⟩, (Except.ok.inj h).symm⟩
  · rintro ⟨takes, rfl⟩
    rw [if_neg (not_not.mpr takes.count)]
    exact Except.bind_ok_iff.mpr ⟨(), takes.check, rfl⟩

theorem Registry.resolve_ok_iff {reg : Registry} {name : String} {p : Predicate} :
    reg.resolve name = .ok p ↔ reg.get? name = some p := by
  unfold Registry.resolve
  cases reg.get? name with
  | none => exact iff_of_false nofun nofun
  | some q => simp only [Except.ok.injEq, Option.some.injEq]

/-- The registry has the predicate of the library under `type?`, with its own check. -/
def Registry.HasType (checks : Checks) (reg : Registry) : Prop :=
  ∃ tag, reg.get? Builtin.type.text = some (.builtin tag .type) ∧
    checks (.builtin tag .type) = Builtin.type.check

/-- Only a class passes the check of `type?`. -/
theorem Builtin.check_type_ok {params : List Value} (passes : Builtin.type.check params = .ok ()) :
    ∃ v, params = [v] ∧ v.isClass = true := by
  obtain ⟨v, only, h⟩ := Except.bind_ok_iff.mp passes
  match params, only with
  | [_], rfl =>
      refine ⟨v, rfl, ?_⟩
      by_contra other
      rw [if_neg other] at h
      exact nomatch h

theorem Builtin.check_type_of_isClass {c : Value} (isClass : c.isClass = true) :
    Builtin.type.check [c] = .ok () := by
  have passes : Builtin.type.check [c] =
      if c.isClass then pure () else throw (.definition (.notClass c)) := rfl
  rw [passes, if_pos isClass]
  rfl

/-! ### Parameters in documents -/

namespace Document

/-- A value stands for a class: it is one, or it is a word for one in letters of either case. -/
inductive StandsFor : Value → Value → Prop where
  | itself {v} (isClass : v.isClass = true) : StandsFor v v
  | word {label c} (known : (Text.asciiLower label.text, c) ∈ Class.aliases) :
      StandsFor (.text label) (.type c)

theorem StandsFor.isClass {v c : Value} (stands : StandsFor v c) : c.isClass = true := by
  cases stands with
  | itself isClass => exact isClass
  | word => rfl

/-- No word stands for two classes. -/
theorem lookup_aliases : ∀ entry ∈ Class.aliases, Class.aliases.lookup entry.1 = some entry.2 := by
  decide

theorem ofAlias?_eq_some_iff {word : String} {c : Class} :
    Class.ofAlias? word = some c ↔ (Text.asciiLower word, c) ∈ Class.aliases := by
  constructor
  · intro h
    obtain ⟨before, after, split, -⟩ := List.lookup_eq_some_iff.mp h
    rw [split]
    exact List.mem_append_right _ List.mem_cons_self
  · intro h
    exact lookup_aliases _ h

theorem classOf_ok_iff {v c : Value} {address : String} :
    classOf v address = .ok c ↔ StandsFor v c := by
  unfold classOf
  constructor
  · intro h
    split at h
    · rename_i isClass
      cases h
      exact .itself isClass
    · split at h
      · rename_i found
        cases h
        obtain ⟨s, text, found⟩ := Option.bind_eq_some_iff.mp found
        cases v <;> cases text
        exact .word (ofAlias?_eq_some_iff.mp found)
      · exact nomatch h
  · intro stands
    cases stands with
    | itself isClass => rw [if_pos isClass]
    | word known =>
        have found := ofAlias?_eq_some_iff.mpr known
        simp [Value.isClass, Value.text?, found]

/-- Parameters as a document gives them and as a predicate of some name is bound to them: the first
one of `type?` stands for a class. -/
inductive Resolves (name : String) : List Value → List Value → Prop where
  | asGiven {params} (plain : name = Builtin.type.text → params = []) : Resolves name params params
  | type {v c rest} (isType : name = Builtin.type.text) (stands : StandsFor v c) :
      Resolves name (v :: rest) (c :: rest)

theorem resolveParams_ok_iff {name address : String} {given params : List Value} :
    resolveParams name address given = .ok params ↔ Resolves name given params := by
  cases given with
  | nil =>
      constructor
      · intro h
        cases h
        exact .asGiven fun _ => rfl
      · intro h
        cases h
        rfl
  | cons first rest =>
      unfold resolveParams
      dsimp only
      by_cases isType : name = Builtin.type.text
      · rw [if_pos isType]
        constructor
        · intro h
          obtain ⟨c, stands, h⟩ := Except.bind_ok_iff.mp h
          cases h
          exact .type isType (classOf_ok_iff.mp stands)
        · intro h
          cases h with
          | asGiven plain => exact nomatch plain isType
          | type _ stands => exact Except.bind_ok_iff.mpr ⟨_, classOf_ok_iff.mpr stands, rfl⟩
      · rw [if_neg isType]
        constructor
        · intro h
          cases h
          exact .asGiven fun h => absurd h isType
        · intro h
          cases h with
          | asGiven => rfl
          | type h => exact absurd h isType

/-- What a predicate that is named with parameters in a document is bound to. -/
abbrev Binding := String → List Value → Expr → Prop

end Document

open Document in
/-- What a registry binds: a predicate that it has under a name, with parameters that the predicate
takes. -/
inductive Registry.Binds (checks : Checks) (reg : Registry) : Binding where
  | bound {name given params p} (resolves : Resolves name given params)
      (found : reg.get? name = some p) (takes : p.Takes checks params) :
      Binds checks reg name given (.bound p params)

namespace Document

/-! ### Groups -/

/-- What the operands of a group come to: a single operand of `and` or `or` is itself, a negation
has exactly one. -/
inductive Combines : Connective → List Expr → Expr → Prop where
  | single {op e} (grouping : op ≠ .not) : Combines op [e] e
  | negation {e} : Combines .not [e] (.negation e)
  | all {es} (several : 2 ≤ es.length) : Combines .and es (.all es)
  | any {es} (several : 2 ≤ es.length) : Combines .or es (.any es)

theorem combine_ok_iff {op : Connective} {address : String} {es : List Expr} {e : Expr} :
    combine op address es = .ok e ↔ Combines op es e := by
  constructor
  · intro h
    match op, es, h with
    | .not, [_], rfl => exact .negation
    | .and, [_], rfl => exact .single nofun
    | .or, [_], rfl => exact .single nofun
    | .and, _ :: _ :: _, rfl => exact .all (by simp)
    | .or, _ :: _ :: _, rfl => exact .any (by simp)
  · intro combines
    cases combines with
    | single grouping => cases op <;> first | rfl | exact absurd rfl grouping
    | negation => rfl
    | all several | any several =>
        match es, several with
        | _ :: _ :: _, _ => rfl

end Document

/-! ### Nodes -/

namespace Node

open Document

def operands : Node → List Node
  | .named _ _ => []
  | .group _ ns => ns

/-- What passes from the operands of a node to the node holds of every node. -/
@[elab_as_elim]
theorem induction {motive : Node → Prop}
    (step : ∀ n : Node, (∀ m ∈ n.operands, motive m) → motive n) : ∀ n, motive n
  | .named name params => step (.named name params) fun _ mem => absurd mem List.not_mem_nil
  | .group op ns => step (.group op ns) fun m (_ : m ∈ ns) => induction step m

/-- The expression that a node denotes. -/
inductive Denotes (binds : Binding) : Node → Expr → Prop where
  | named {name given e} (bound : binds name given e) : Denotes binds (.named name given) e
  | group {op ns es e} (operands : List.Forall₂ (Denotes binds) ns es)
      (combines : Combines op es e) : Denotes binds (.group op ns) e

end Node

section Building

open Document

variable {checks : Checks} {reg : Registry}

theorem buildAll_eq_traverseFrom (address : String) (i : Nat) (ns : List Node) :
    buildAll checks reg address i ns = Except.traverseFrom
      (fun i n => build checks reg (address ++ ".operands." ++ Number.showNat i) n) i ns := by
  induction ns generalizing i with
  | nil => rfl
  | cons n ns ih =>
      rw [buildAll, Except.traverseFrom]
      simp only [ih]

theorem buildAll_ok_iff {ns : List Node}
    (each : ∀ n ∈ ns, ∀ address e,
      build checks reg address n = .ok e ↔ n.Denotes (reg.Binds checks) e)
    (address : String) (i : Nat) (es : List Expr) :
    buildAll checks reg address i ns = .ok es ↔
      List.Forall₂ (Node.Denotes (reg.Binds checks)) ns es := by
  rw [buildAll_eq_traverseFrom]
  constructor
  · intro built
    exact Except.forall₂_of_traverseFrom built fun n mem e _ _ => (each n mem _ e).mp
  · intro denotes
    exact Except.traverseFrom_of_forall₂ denotes fun n mem e _ _ => (each n mem _ e).mpr

/-- A node is built exactly when it denotes something, and into that. -/
theorem build_ok_iff (n : Node) (address : String) (e : Expr) :
    build checks reg address n = .ok e ↔ n.Denotes (reg.Binds checks) e := by
  induction n using Node.induction generalizing address e with
  | step n ih =>
      cases n with
      | named name given =>
          rw [build]
          constructor
          · intro h
            obtain ⟨params, resolves, h⟩ := Except.bind_ok_iff.mp h
            obtain ⟨p, found, h⟩ := Except.bind_ok_iff.mp h
            obtain ⟨takes, rfl⟩ := Expr.bindBy_ok_iff.mp h
            have found := Registry.resolve_ok_iff.mp found
            exact .named (.bound (resolveParams_ok_iff.mp resolves) found takes)
          · rintro ⟨resolves, found, takes⟩
            refine Except.bind_ok_iff.mpr ⟨_, resolveParams_ok_iff.mpr resolves, ?_⟩
            refine Except.bind_ok_iff.mpr ⟨_, Registry.resolve_ok_iff.mpr found, ?_⟩
            exact Expr.bindBy_ok_iff.mpr ⟨takes, rfl⟩
      | group op ns =>
          rw [build]
          constructor
          · intro h
            obtain ⟨es, built, h⟩ := Except.bind_ok_iff.mp h
            exact .group ((buildAll_ok_iff ih address 0 es).mp built) (combine_ok_iff.mp h)
          · rintro (_ | ⟨operands, combines⟩)
            refine Except.bind_ok_iff.mpr ⟨_, (buildAll_ok_iff ih address 0 _).mpr operands, ?_⟩
            exact combine_ok_iff.mpr combines

end Building

/-! ### Rules and documents -/

/-- The rule that a rule node denotes: its path has to be one, and its node denotes the
expression. -/
inductive RuleNode.Denotes (binds : Document.Binding) : RuleNode → Rule → Prop where
  | rule {path node e} (isPath : IsPath path) (expr : node.Denotes binds e) :
      Denotes binds ⟨path, node⟩ ⟨.plain path, e⟩

section Rules

open Document

variable {checks : Checks} {reg : Registry}

theorem Rule.make_ok_iff {path : String} {e : Expr} {r : Rule} :
    Rule.make (.ofString path) (.expr e) = .ok r ↔ IsPath path ∧ r = ⟨.plain path, e⟩ := by
  constructor
  · intro h
    obtain ⟨label, checked, h⟩ := Except.bind_ok_iff.mp h
    obtain ⟨isPath, rfl⟩ := Label.ofPath_ok_iff.mp checked
    exact ⟨isPath, (Except.ok.inj h).symm⟩
  · rintro ⟨isPath, rfl⟩
    exact Except.bind_ok_iff.mpr ⟨.plain path, Label.ofPath_ok_iff.mpr ⟨isPath, rfl⟩, rfl⟩

theorem buildRule_ok_iff {i : Nat} {n : RuleNode} {r : Rule} :
    buildRule checks reg i n = .ok r ↔ n.Denotes (reg.Binds checks) r := by
  constructor
  · intro h
    obtain ⟨e, built, h⟩ := Except.bind_ok_iff.mp h
    obtain ⟨isPath, rfl⟩ := Rule.make_ok_iff.mp h
    exact .rule isPath ((build_ok_iff n.node _ e).mp built)
  · rintro ⟨isPath, expr⟩
    refine Except.bind_ok_iff.mpr ⟨_, (build_ok_iff _ _ _).mpr expr, ?_⟩
    exact Rule.make_ok_iff.mpr ⟨isPath, rfl⟩

theorem buildRules_eq_traverseFrom (i : Nat) (ns : List RuleNode) :
    buildRules checks reg i ns = Except.traverseFrom (buildRule checks reg) i ns := by
  induction ns generalizing i with
  | nil => rfl
  | cons n ns ih =>
      rw [buildRules, Except.traverseFrom]
      simp only [ih]

theorem buildRules_ok_iff {i : Nat} {ns : List RuleNode} {rs : List Rule} :
    buildRules checks reg i ns = .ok rs ↔
      List.Forall₂ (RuleNode.Denotes (reg.Binds checks)) ns rs := by
  rw [buildRules_eq_traverseFrom]
  constructor
  · intro built
    exact Except.forall₂_of_traverseFrom built fun _ _ _ _ _ => buildRule_ok_iff.mp
  · intro denotes
    exact Except.traverseFrom_of_forall₂ denotes fun _ _ _ _ _ => buildRule_ok_iff.mpr

/-- A document makes a rule set exactly when its rules can be read, and each of them denotes the
rule of the set in its place. -/
theorem RuleSet.ofDocumentBy_ok_iff {document : Value} {rs : RuleSet} :
    RuleSet.ofDocumentBy checks reg document = .ok rs ↔
      ∃ nodes, Document.rulesOf document = .ok nodes ∧
        List.Forall₂ (RuleNode.Denotes (reg.Binds checks)) nodes rs.rules := by
  constructor
  · intro h
    obtain ⟨nodes, read, h⟩ := Except.bind_ok_iff.mp h
    obtain ⟨rules, built, h⟩ := Except.bind_ok_iff.mp h
    cases h
    exact ⟨nodes, Except.mapError_ok_iff.mp read, buildRules_ok_iff.mp built⟩
  · rintro ⟨nodes, read, denotes⟩
    obtain ⟨rules⟩ := rs
    refine Except.bind_ok_iff.mpr ⟨nodes, Except.mapError_ok_iff.mpr read, ?_⟩
    exact Except.bind_ok_iff.mpr ⟨rules, buildRules_ok_iff.mpr denotes, rfl⟩

/-- The host has no part in the rule set that a document makes, only in the faults. -/
theorem RuleSet.ofDocument_ok_iff {document : Value} {rs : RuleSet} :
    RuleSet.ofDocument reg document = .ok rs ↔
      RuleSet.ofDocumentBy Predicate.check reg document = .ok rs := by
  rw [ofDocument, ofDocumentOn, ofDocumentBy, Except.bind_ok_iff, Except.bind_ok_iff]
  refine exists_congr fun nodes => and_congr ?_ ?_
  · simp only [Host.standard, Except.mapError_ok_iff]
  · rw [Except.bind_ok_iff, Except.bind_ok_iff]
    simp only [Except.mapError_ok_iff]
    rfl

end Rules

/-! ### What can be made -/

/-- An expression can be made from a registry: every leaf is the predicate that the registry has
under its name, with parameters that it takes, and every combination has as many operands as it
needs. -/
inductive Expr.MadeFrom (checks : Checks) (reg : Registry) : Expr → Prop where
  | bound {p params} (found : reg.get? p.key = some p) (takes : p.Takes checks params) :
      MadeFrom checks reg (.bound p params)
  | all {es} (several : 2 ≤ es.length) (operands : ∀ e ∈ es, MadeFrom checks reg e) :
      MadeFrom checks reg (.all es)
  | any {es} (several : 2 ≤ es.length) (operands : ∀ e ∈ es, MadeFrom checks reg e) :
      MadeFrom checks reg (.any es)
  | negation {e} (operand : MadeFrom checks reg e) : MadeFrom checks reg (.negation e)

/-- A rule can be made from a registry, with a path that is plain text. -/
inductive Rule.MadeFrom (checks : Checks) (reg : Registry) : Rule → Prop where
  | rule {path e} (isPath : IsPath path) (expr : e.MadeFrom checks reg) :
      MadeFrom checks reg ⟨.plain path, e⟩

section MadeFrom

open Document

variable {checks : Checks} {reg : Registry}

theorem Document.Combines.madeFrom {op : Connective} {es : List Expr} {e : Expr}
    (combines : Combines op es e) (operands : ∀ e ∈ es, e.MadeFrom checks reg) :
    e.MadeFrom checks reg := by
  cases combines with
  | single => exact operands e List.mem_cons_self
  | negation => exact .negation (operands _ List.mem_cons_self)
  | all several => exact .all several operands
  | any several => exact .any several operands

theorem forall_mem_of_forall₂ {α β : Type} {R : α → β → Prop} {P : β → Prop} {xs : List α}
    {ys : List β} (related : List.Forall₂ R xs ys) (each : ∀ x ∈ xs, ∀ y, R x y → P y) :
    ∀ y ∈ ys, P y := by
  induction related with
  | nil => exact List.forall_mem_nil P
  | cons first _ ih =>
      rw [List.forall_mem_cons] at each ⊢
      exact ⟨each.1 _ first, ih each.2⟩

/-- What is denoted can be made. -/
theorem Node.Denotes.madeFrom {n : Node} {e : Expr} (denotes : n.Denotes (reg.Binds checks) e) :
    e.MadeFrom checks reg := by
  induction n using Node.induction generalizing e with
  | step n ih =>
      cases denotes with
      | named bound =>
          obtain ⟨-, found, takes⟩ := bound
          exact .bound ((Registry.key_of_get? found).symm ▸ found) takes
      | group operands combines =>
          exact combines.madeFrom (forall_mem_of_forall₂ operands fun m mem e => ih m mem)

/-- Every rule of a document can be made from the registry that the document was read with. -/
theorem RuleSet.madeFrom_of_ofDocumentBy {document : Value} {rs : RuleSet}
    (h : RuleSet.ofDocumentBy checks reg document = .ok rs) :
    ∀ r ∈ rs.rules, r.MadeFrom checks reg := by
  obtain ⟨nodes, -, denotes⟩ := RuleSet.ofDocumentBy_ok_iff.mp h
  refine forall_mem_of_forall₂ denotes fun n _ r denotes => ?_
  obtain ⟨isPath, expr⟩ := denotes
  exact .rule isPath expr.madeFrom

end MadeFrom

end RecordRules
