import RecordRules.Builder
import RecordRules.Proofs.Document.Schema
import RecordRules.Proofs.Expr.Equality

/-!
Rules declared one by one.

A rule of a single predicate can be declared in two ways: as an entry of a flat document, and in a
call of a builder. The document is read as a whole before any rule is made of it, and its words for
classes are replaced on the way, while the builder makes each rule as it is called. Both come down
to `Declaration.rules`, which makes the rules of some declarations from the left up to the first
that fails (`ofDocumentBy_document`, `declare_eq_rules`). So they agree in the rules and in the
fault, and blame the same declaration (`document_iff_declare`).
-/

namespace RecordRules

/-- A rule of a single predicate as it is declared, with the parameters that a document has and
those that a builder is given, where a class takes the place of a word for it. -/
structure Declaration where
  path : String
  name : String
  written : List Value
  params : List Value
  resolves : Document.Resolves name written params

/-- The builder after some declarations, each in a call of its own. -/
def Builder.declare (checks : Checks) (b : Builder) (ds : List Declaration) :
    Except Fault Builder :=
  ds.foldlM (fun b d => b.validatesBy checks (.ofString d.path) (.ofString d.name) d.params) b

namespace Declaration

def entry (d : Declaration) : Value :=
  .object [("attribute", .ofString d.path), ("predicate", .ofString d.name),
    ("params", .list d.written)]

def document (ds : List Declaration) : Value := .object [("rules", .list (ds.map entry))]

/-- The rule of a declaration, or the fault of declaring it. -/
def rule (checks : Checks) (reg : Registry) (d : Declaration) : Except Fault Rule := do
  let e ← Expr.bindBy checks (← reg.resolve d.name) d.params
  Rule.make (.ofString d.path) (.expr e)

def rules (checks : Checks) (reg : Registry) : List Declaration → Except Fault (List Rule)
  | [] => .ok []
  | d :: ds => do
    let r ← d.rule checks reg
    let rs ← rules checks reg ds
    return r :: rs

/-- What a declaration declares: under its path, the predicate that the registry has under its name,
with parameters that this takes. -/
inductive Declares (checks : Checks) (reg : Registry) : Declaration → Rule → Prop where
  | rule {d : Declaration} {p} (found : reg.get? d.name = some p) (takes : p.Takes checks d.params)
      (isPath : IsPath d.path) : Declares checks reg d ⟨.plain d.path, .bound p d.params⟩

variable {checks : Checks} {reg : Registry}

theorem rule_ok_iff {d : Declaration} {r : Rule} :
    d.rule checks reg = .ok r ↔ Declares checks reg d r := by
  constructor
  · intro h
    obtain ⟨p, found, h⟩ := Except.bind_ok_iff.mp h
    obtain ⟨e, bound, h⟩ := Except.bind_ok_iff.mp h
    obtain ⟨takes, rfl⟩ := Expr.bindBy_ok_iff.mp bound
    obtain ⟨isPath, rfl⟩ := Rule.make_ok_iff.mp h
    exact .rule (Registry.resolve_ok_iff.mp found) takes isPath
  · rintro ⟨found, takes, isPath⟩
    refine Except.bind_ok_iff.mpr ⟨_, Registry.resolve_ok_iff.mpr found, ?_⟩
    refine Except.bind_ok_iff.mpr ⟨_, Expr.bindBy_ok_iff.mpr ⟨takes, rfl⟩, ?_⟩
    exact Rule.make_ok_iff.mpr ⟨isPath, rfl⟩

theorem rules_ok_iff {ds : List Declaration} {rs : List Rule} :
    rules checks reg ds = .ok rs ↔ List.Forall₂ (Declares checks reg) ds rs := by
  induction ds generalizing rs with
  | nil =>
      rw [List.forall₂_nil_left_iff, rules, Except.ok.injEq]
      exact eq_comm
  | cons d ds ih =>
      rw [List.forall₂_cons_left_iff, rules, Except.bind_ok_iff]
      constructor
      · rintro ⟨r, made, h⟩
        obtain ⟨rest, others, h⟩ := Except.bind_ok_iff.mp h
        exact ⟨r, rest, rule_ok_iff.mp made, ih.mp others, (Except.ok.inj h).symm⟩
      · rintro ⟨r, rest, declares, others, rfl⟩
        exact ⟨r, rule_ok_iff.mpr declares, Except.bind_ok_iff.mpr ⟨rest, ih.mpr others, rfl⟩⟩

/-- A fault is that of the first declaration that fails. -/
theorem exists_of_rules_error {ds : List Declaration} {f : Fault}
    (h : rules checks reg ds = .error f) :
    ∃ before d after rs, ds = before ++ d :: after ∧ rules checks reg before = .ok rs ∧
      d.rule checks reg = .error f := by
  induction ds with
  | nil => exact nomatch h
  | cons d ds ih =>
      rw [rules] at h
      cases made : d.rule checks reg with
      | error g =>
          rw [made, Except.error_bind] at h
          cases h
          exact ⟨[], d, ds, [], rfl, rfl, made⟩
      | ok r =>
          rw [made, Except.ok_bind] at h
          cases later : rules checks reg ds with
          | error g =>
              rw [later] at h
              cases h
              obtain ⟨before, bad, after, rs, rfl, here, fails⟩ := ih later
              refine ⟨d :: before, bad, after, r :: rs, rfl, ?_, fails⟩
              rw [rules, made, Except.ok_bind, here]
              rfl
          | ok rs =>
              rw [later] at h
              exact nomatch h

/-! ### Declarations in a document -/

/-- What a declaration is read as. -/
def node (d : Declaration) : RuleNode := ⟨d.path, .named d.name d.written⟩

theorem readsRule_entry (d : Declaration) : Document.ReadsRule d.entry d.node := by
  have known : ∀ field ∈ [("attribute", Value.ofString d.path),
      ("predicate", .ofString d.name), ("params", .list d.written)],
      field.1 ∈ Document.Role.rule.keys := by
    simp [Document.Role.keys]
  exact .object rfl (.named known rfl rfl rfl rfl)

theorem rulesOf_document (ds : List Declaration) :
    Document.rulesOf (document ds) = .ok (ds.map node) := by
  have each : List.Forall₂ Document.ReadsRule (ds.map entry) (ds.map node) := by
    rw [List.forall₂_map_left_iff, List.forall₂_map_right_iff, List.forall₂_same]
    exact fun d _ => readsRule_entry d
  refine Document.rulesOf_of_reads (.object ?_ rfl each)
  simp [Document.Role.keys]

theorem buildRule_node (i : Nat) (d : Declaration) :
    Document.buildRule checks reg i d.node = d.rule checks reg := by
  rw [Document.buildRule, node, Document.build, Document.resolveParams_ok_iff.mpr d.resolves,
    Except.ok_bind, rule]
  cases reg.resolve d.name <;> rfl

theorem buildRules_map_node (i : Nat) (ds : List Declaration) :
    Document.buildRules checks reg i (ds.map node) = rules checks reg ds := by
  induction ds generalizing i with
  | nil => rfl
  | cons d ds ih => rw [List.map_cons, Document.buildRules, buildRule_node, ih, rules]

/-- A flat document makes the rules of its declarations. -/
theorem ofDocumentBy_document (ds : List Declaration) :
    RuleSet.ofDocumentBy checks reg (document ds) = (rules checks reg ds).map RuleSet.mk := by
  have read : (Document.rulesOf (document ds)).mapError Document.Problem.toFault =
      .ok (ds.map node) := by
    rw [rulesOf_document]
    rfl
  rw [RuleSet.ofDocumentBy, read, Except.ok_bind, buildRules_map_node]
  cases rules checks reg ds <;> rfl

/-! ### Declarations in calls of a builder -/

theorem validatesBy_eq_rule (b : Builder) (d : Declaration) :
    b.validatesBy checks (.ofString d.path) (.ofString d.name) d.params =
      (d.rule checks b.registry).map fun r => { b with rules := b.rules ++ [r] } := by
  have key : (Value.ofString d.name).nameKey = d.name := rfl
  rw [Builder.validatesBy, Builder.predicateBy, key, rule]
  cases b.registry.resolve d.name with
  | error f => rfl
  | ok p =>
      simp only [Except.ok_bind]
      cases Expr.bindBy checks p d.params with
      | error f => rfl
      | ok e =>
          rw [Except.ok_bind, Except.ok_bind, Builder.rule]
          cases Rule.make (.ofString d.path) (.expr e) <;> rfl

/-- A builder adds the rules of the declarations to those that it has. -/
theorem declare_eq_rules (b : Builder) (ds : List Declaration) :
    b.declare checks ds =
      (rules checks b.registry ds).map fun rs => { b with rules := b.rules ++ rs } := by
  induction ds generalizing b with
  | nil =>
      rw [rules, Except.map, List.append_nil]
      rfl
  | cons d ds ih =>
      rw [Builder.declare, List.foldlM_cons, validatesBy_eq_rule, rules]
      cases d.rule checks b.registry with
      | error f => rfl
      | ok r =>
          have later := ih { b with rules := b.rules ++ [r] }
          refine later.trans ?_
          simp only [Except.ok_bind]
          cases rules checks b.registry ds with
          | error f => rfl
          | ok rs => simp [Except.map]

/-! ### Both ways agree -/

theorem declare_new (ds : List Declaration) :
    (Builder.new reg).declare checks ds = (rules checks reg ds).map (Builder.mk reg) := by
  rw [declare_eq_rules]
  rfl

/-- **A document and a builder agree.** Whatever the registry and the checks of its predicates are,
the flat document of some declarations makes a rule set exactly when a new builder takes all of them
in their order. Then both have made the very same rule set, with the rule that each declaration
declares in its place, so the two are equal as far as parameters are the same as themselves.
Otherwise both fail with the same fault, and it is that of the same declaration: both make a rule
set of those before it, and both fail with that fault on it alone. -/
theorem document_iff_declare (checks : Checks) (reg : Registry) (ds : List Declaration) :
    (∀ rs, RuleSet.ofDocumentBy checks reg (document ds) = .ok rs ↔
      ∃ b, (Builder.new reg).declare checks ds = .ok b ∧ b.build = rs) ∧
    (∀ rs, RuleSet.ofDocumentBy checks reg (document ds) = .ok rs →
      List.Forall₂ (Declares checks reg) ds rs.rules) ∧
    (∀ rs b, RuleSet.ofDocumentBy checks reg (document ds) = .ok rs →
      (Builder.new reg).declare checks ds = .ok b →
      (∀ r ∈ rs.rules, r.expr.HasSameParams) → rs.equal b.build = .ok true) ∧
    (∀ f, RuleSet.ofDocumentBy checks reg (document ds) = .error f ↔
      (Builder.new reg).declare checks ds = .error f) ∧
    ∀ f, RuleSet.ofDocumentBy checks reg (document ds) = .error f →
      ∃ before d after b, ds = before ++ d :: after ∧
        RuleSet.ofDocumentBy checks reg (document before) = .ok b.build ∧
        (Builder.new reg).declare checks before = .ok b ∧
        RuleSet.ofDocumentBy checks reg (document [d]) = .error f ∧
        b.validatesBy checks (.ofString d.path) (.ofString d.name) d.params = .error f := by
  have alone {d : Declaration} {f : Fault} (fails : d.rule checks reg = .error f) :
      rules checks reg [d] = .error f := by
    rw [rules, fails]
    rfl
  simp only [ofDocumentBy_document, declare_new, validatesBy_eq_rule]
  cases made : rules checks reg ds with
  | ok rs =>
      refine ⟨fun set => ?_, fun set h => ?_, fun set b h h' => ?_, fun f => ?_, nofun⟩
      · constructor
        · intro h
          exact ⟨⟨reg, rs⟩, rfl, Except.ok.inj h⟩
        · rintro ⟨b, h, rfl⟩
          cases h
          rfl
      · cases h
        exact rules_ok_iff.mp made
      · cases h
        cases h'
        exact RuleSet.equal_self
      · exact iff_of_false nofun nofun
  | error g =>
      refine ⟨fun set => ?_, nofun, nofun, fun f => ?_, fun f h => ?_⟩
      · exact iff_of_false nofun fun ⟨_, h, _⟩ => nomatch h
      · simp only [Except.map, Except.error.injEq]
      · cases h
        obtain ⟨before, d, after, rs, split, here, fails⟩ := exists_of_rules_error made
        refine ⟨before, d, after, ⟨reg, rs⟩, split, ?_, ?_, ?_, ?_⟩
        · rw [here]
          rfl
        · rw [here]
          rfl
        · rw [alone fails]
          rfl
        · rw [fails]
          rfl

end Declaration

end RecordRules
