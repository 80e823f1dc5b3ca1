import RecordRules.Evaluation
import RecordRules.Proofs.Document.Schema
import RecordRules.Proofs.Expr.Equality
import RecordRules.Proofs.Registry.Lookup

/-!
Rule sets written as documents.

A rule set written as a document and read again is the same rule set, provided that it can be made
from the registry that it is read with: an expression is written as the entries of a node, that node
(`Expr.toNode`) is what is read from them, and it denotes the expression. As whatever is read from a
document can be made from the registry, any document says the same as the one that its rule set is
written as.
-/

namespace RecordRules

namespace Expr

mutual

/-- The node that an expression is written as. -/
def toNode : Expr → Node
  | .bound p params => .named p.key params
  | .all es => .group .and (toNodes es)
  | .any es => .group .or (toNodes es)
  | .negation e => .group .not [e.toNode]
termination_by structural e => e

def toNodes : List Expr → List Node
  | [] => []
  | e :: es => e.toNode :: toNodes es
termination_by structural es => es

end

theorem toNodes_eq_map (es : List Expr) : toNodes es = es.map toNode := by
  induction es with
  | nil => rfl
  | cons e es ih => rw [toNodes, ih, List.map_cons]

theorem operandEntries_eq_map (es : List Expr) : operandEntries es = es.map toDict := by
  induction es with
  | nil => rfl
  | cons e es ih =>
      rw [operandEntries, ih, List.map_cons]
      rfl

end Expr

namespace Document

/-! ### What is written is a node -/

theorem reads_operands {es : List Expr} (each : ∀ e ∈ es, Reads .operand e.entries e.toNode) :
    List.Forall₂ ReadsOperand (Expr.operandEntries es) (Expr.toNodes es) := by
  rw [Expr.operandEntries_eq_map, Expr.toNodes_eq_map, List.forall₂_map_left_iff,
    List.forall₂_map_right_iff, List.forall₂_same]
  exact fun e mem => .object (each e mem)

theorem keys_entries (e : Expr) : ∀ field ∈ e.entries, field.1 ∈ Role.operand.keys := by
  cases e <;> simp [Expr.entries, Role.keys]

theorem reads_entries (e : Expr) : Reads .operand e.entries e.toNode := by
  have known := keys_entries e
  induction e using Expr.induction with
  | bound p params => exact .named known rfl rfl rfl rfl
  | all es ih =>
      exact .group known rfl rfl rfl rfl (reads_operands fun e mem => ih e mem (keys_entries e))
  | any es ih =>
      exact .group known rfl rfl rfl rfl (reads_operands fun e mem => ih e mem (keys_entries e))
  | negation e ih =>
      exact .group known rfl rfl rfl rfl (.cons (.object (ih (keys_entries e))) .nil)

theorem fieldD_attribute {key : String} (other : ¬ "attribute" = key) (default v : Value)
    (fields : List (String × Value)) :
    fieldD key default (("attribute", v) :: fields) = fieldD key default fields := by
  rw [fieldD, lookup_other other, fieldD]

/-- Beside an attribute, the fields of an operand make the same node as without it. -/
theorem Reads.withAttribute {fields : List (String × Value)} {n : Node} (v : Value)
    (reads : Reads .operand fields n) : Reads .rule (("attribute", v) :: fields) n := by
  have widen (known : ∀ field ∈ fields, field.1 ∈ Role.operand.keys) :
      ∀ field ∈ ("attribute", v) :: fields, field.1 ∈ Role.rule.keys := by
    have new : "attribute" ∈ Role.rule.keys := by decide
    refine List.forall_mem_cons.mpr ⟨new, fun field mem => ?_⟩
    exact List.mem_append_left ["attribute"] (known field mem)
  cases reads with
  | named known hasPredicate noOp hasParams noOperands =>
      refine .named (widen known) ?_ ?_ ?_ ?_ <;> rw [fieldD_attribute (by decide)] <;> assumption
  | group known noPredicate hasOp noParams hasOperands operands =>
      refine .group (widen known) ?_ ?_ ?_ ?_ operands <;> rw [fieldD_attribute (by decide)] <;>
        assumption

/-- A rule with a path of plain text is written as a rule node. -/
theorem readsRule_toDict (path : String) (e : Expr) :
    ReadsRule (Rule.toDict ⟨.plain path, e⟩) ⟨path, e.toNode⟩ :=
  .object rfl ((reads_entries e).withAttribute (.ofString path))

/-- A rule set is written as a document of whatever its rules are written as. -/
theorem readsDocument_toDict {rs : RuleSet} {nodes : List RuleNode}
    (each : List.Forall₂ (fun r node => ReadsRule (Rule.toDict r) node) rs.rules nodes) :
    ReadsDocument rs.toDict nodes := by
  refine .object ?_ rfl (List.forall₂_map_left_iff.mpr each)
  simp [Role.keys]

end Document

/-! ### What is written denotes what it was written from -/

section MadeFrom

open Document

variable {checks : Checks} {reg : Registry}

/-- The parameters of a registered predicate stand for themselves in a document: if they are those
of `type?`, they are a class. -/
theorem Registry.HasType.resolves (hasType : reg.HasType checks) {p : Predicate}
    {params : List Value} (found : reg.get? p.key = some p) (takes : p.Takes checks params) :
    Resolves p.key params params := by
  by_cases isType : p.key = Builtin.type.text
  · obtain ⟨tag, here, check⟩ := hasType
    rw [isType, here] at found
    obtain rfl := Option.some.inj found
    obtain ⟨v, rfl, isClass⟩ := Builtin.check_type_ok (check ▸ takes.check)
    exact .type rfl (.itself isClass)
  · exact .asGiven fun same => absurd same isType

theorem Expr.MadeFrom.denotes (hasType : reg.HasType checks) {e : Expr}
    (made : e.MadeFrom checks reg) : e.toNode.Denotes (reg.Binds checks) e := by
  have each {es : List Expr} (ih : ∀ e ∈ es, e.toNode.Denotes (reg.Binds checks) e) :
      List.Forall₂ (Node.Denotes (reg.Binds checks)) (Expr.toNodes es) es := by
    rw [Expr.toNodes_eq_map, List.forall₂_map_left_iff, List.forall₂_same]
    exact ih
  induction made with
  | bound found takes => exact .named (.bound (hasType.resolves found takes) found takes)
  | all several _ ih => exact .group (each ih) (.all several)
  | any several _ ih => exact .group (each ih) (.any several)
  | negation _ ih => exact .group (.cons ih .nil) .negation

end MadeFrom

namespace RuleSet

open Document (ReadsRule readsRule_toDict readsDocument_toDict rulesOf_of_reads)

variable {checks : Checks} {reg : Registry}

/-- What can be made from a registry is read back as it was, from the document that it is written
as. -/
theorem ofDocumentBy_toDict_of_madeFrom (hasType : reg.HasType checks) {rs : RuleSet}
    (made : ∀ r ∈ rs.rules, r.MadeFrom checks reg) :
    ofDocumentBy checks reg rs.toDict = .ok rs := by
  have each : ∀ r ∈ rs.rules, ReadsRule (Rule.toDict r) ⟨r.path.text, r.expr.toNode⟩ ∧
      RuleNode.Denotes (reg.Binds checks) ⟨r.path.text, r.expr.toNode⟩ r := by
    intro r mem
    obtain ⟨isPath, expr⟩ := made r mem
    exact ⟨readsRule_toDict _ _, .rule isPath (expr.denotes hasType)⟩
  refine ofDocumentBy_ok_iff.mpr
    ⟨rs.rules.map fun r => ⟨r.path.text, r.expr.toNode⟩, rulesOf_of_reads ?_, ?_⟩
  · refine readsDocument_toDict (List.forall₂_map_right_iff.mpr ?_)
    exact List.forall₂_same.mpr fun r mem => (each r mem).1
  · refine List.forall₂_map_left_iff.mpr ?_
    exact List.forall₂_same.mpr fun r mem => (each r mem).2

/-- **Rule sets survive being written and read.** With a registry that has the predicate of the
library under `type?`, whatever the checks and the outcomes of the others are, every rule set that
can be made from the registry is written as a document from which the very same rule set is read. So
it is equal to the first one as far as its parameters are the same as themselves, and evaluates to
the same. And every document that is read at all can be replaced by the one that its rule set is
written as. -/
theorem ofDocumentBy_toDict (hasType : reg.HasType checks) :
    (∀ rs : RuleSet, (∀ r ∈ rs.rules, r.MadeFrom checks reg) →
      ∃ back, ofDocumentBy checks reg rs.toDict = .ok back ∧ back = rs ∧
        ((∀ r ∈ rs.rules, r.expr.HasSameParams) → back.equal rs = .ok true) ∧
        ∀ outcomes (c : Config) record,
          c.evaluateBy outcomes back record = c.evaluateBy outcomes rs record) ∧
    ∀ document rs, ofDocumentBy checks reg document = .ok rs →
      ofDocumentBy checks reg rs.toDict = .ok rs := by
  constructor
  · intro rs made
    refine ⟨rs, ofDocumentBy_toDict_of_madeFrom hasType made, rfl, equal_self, ?_⟩
    exact fun _ _ _ => rfl
  · intro document rs read
    exact ofDocumentBy_toDict_of_madeFrom hasType (madeFrom_of_ofDocumentBy read)

/-- An age has to be there, and must not be a truth value. -/
def ageRules : RuleSet :=
  ⟨[⟨.plain "age", .all [.bound (Builtin.filled.predicate 0) [],
    .negation (.bound (Builtin.type.predicate 0) [.type .bool])]⟩]⟩

/-- With a new registry, these rules are read back as they were. -/
theorem ofDocumentBy_toDict_ageRules :
    ofDocumentBy Predicate.check (.standard 0) ageRules.toDict = .ok ageRules := by
  have held (b : Builtin) : (Registry.standard 0).get? b.text = some (b.predicate 0) :=
    Registry.get?_standard.mpr ⟨b, rfl, rfl⟩
  have leaf (b : Builtin) {params : List Value} (count : params.length = b.arity)
      (check : b.check params = .ok ()) :
      (Expr.bound (b.predicate 0) params).MadeFrom Predicate.check (.standard 0) :=
    .bound (held b) ⟨count, check⟩
  have hasType : (Registry.standard 0).HasType Predicate.check := ⟨0, held .type, rfl⟩
  have made : ∀ r ∈ ageRules.rules, r.MadeFrom Predicate.check (.standard 0) := by
    refine List.forall_mem_singleton.mpr (.rule ⟨by decide, by decide⟩ (.all (by decide) ?_))
    refine List.forall_mem_cons.mpr ⟨leaf .filled rfl rfl, ?_⟩
    exact List.forall_mem_singleton.mpr (.negation (leaf .type rfl rfl))
  obtain ⟨back, read, rfl, -⟩ := (ofDocumentBy_toDict hasType).1 ageRules made
  exact read

end RuleSet

end RecordRules
