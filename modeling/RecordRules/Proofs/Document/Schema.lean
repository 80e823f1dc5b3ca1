import Mathlib.Data.List.Forall2
import RecordRules.Proofs.Document.Denotation

/-!
Objects as nodes.

`Reads` says which objects are nodes, field by field: which keys there may be, what stands for a
field that is left out, and which fields go together. An object that is a node is read as that node
(`operandOf_of_reads`), and among the values of JSON nothing else is read at all
(`reads_of_operandOf`). The same is said of rules and of whole documents.
-/

namespace RecordRules

/-- The values that JSON can stand for. -/
inductive Value.IsJson : Value → Prop where
  | none : IsJson .none
  | bool (b) : IsJson (.bool b)
  | int (i) : IsJson (.int i)
  | float (tag x) : IsJson (.float tag x)
  | text (s) : IsJson (.ofString s)
  | list {items} (each : ∀ v ∈ items, IsJson v) : IsJson (.list items)
  | object {fields : List (String × Value)} (each : ∀ field ∈ fields, IsJson field.2) :
      IsJson (.object fields)

theorem Value.object_injective : Function.Injective Value.object := by
  intro fields fields' h
  obtain ⟨-, entries⟩ := Value.dict.inj h
  refine List.map_injective_iff.mpr ?_ entries
  rintro ⟨k, v⟩ ⟨k', v'⟩ same
  cases same
  rfl

theorem Value.isJson_object_iff {fields : List (String × Value)} :
    (Value.object fields).IsJson ↔ ∀ field ∈ fields, field.2.IsJson := by
  constructor
  · intro json
    generalize shape : Value.object fields = v at json
    cases json with
    | object each => exact Value.object_injective shape ▸ each
    | none | bool | int | float | text | list => exact nomatch shape
  · exact .object

theorem Value.isJson_list_iff {items : List Value} :
    (Value.list items).IsJson ↔ ∀ v ∈ items, v.IsJson := by
  constructor
  · intro json
    cases json with
    | list each => exact each
  · exact .list

namespace Document

/-! ### Fields -/

/-- The entries of an object with some fields. -/
def textual (fields : List (String × Value)) : List (Value × Value) :=
  fields.map fun (k, v) => (.ofString k, v)

/-- A field, or what stands for it when it is left out. -/
def fieldD (key : String) (default : Value) (fields : List (String × Value)) : Value :=
  (fields.lookup key).getD default

section Fields

variable {fields : List (String × Value)} {location : List String}

@[simp] theorem text?_ofString (s : String) : (Value.ofString s).text? = some s := rfl

theorem textual_cons (k : String) (v : Value) (rest : List (String × Value)) :
    textual ((k, v) :: rest) = (.ofString k, v) :: textual rest := rfl

theorem lookup_other {key k : String} (other : ¬ k = key) (v : Value) :
    ((k, v) :: fields).lookup key = fields.lookup key := by
  rw [List.lookup_cons, beq_false_of_ne fun h => other h.symm]

theorem field?_textual (key : String) (fields : List (String × Value)) :
    field? key (textual fields) = fields.lookup key := by
  induction fields with
  | nil => rfl
  | cons field rest ih =>
      obtain ⟨k, v⟩ := field
      rw [textual_cons]
      by_cases same : k = key
      · simp [field?, same]
      · rw [lookup_other same, ← ih]
        simp [field?, same]

theorem predicateOf_textual : predicateOf (textual fields) location =
    match fieldD "predicate" .none fields with
    | .none => .ok none
    | v => (textOf v (location ++ ["predicate"])).map some := by
  unfold predicateOf fieldD
  rw [field?_textual]
  cases fields.lookup "predicate" with
  | none => rfl
  | some v => cases v <;> rfl

theorem connectiveOf_textual : connectiveOf (textual fields) location =
    match fieldD "op" .none fields with
    | .none => .ok none
    | v =>
      match v.text?.bind Connective.ofText? with
      | some c => .ok (some c)
      | none => .error ⟨"Input should be 'and', 'or' or 'not'", location ++ ["op"]⟩ := by
  unfold connectiveOf fieldD
  rw [field?_textual]
  cases fields.lookup "op" with
  | none => rfl
  | some v => cases v <;> rfl

theorem paramsOf_textual : paramsOf (textual fields) location =
    itemsOf (fieldD "params" (.list []) fields) (location ++ ["params"]) := by
  unfold paramsOf fieldD
  rw [field?_textual]
  cases fields.lookup "params" <;> rfl

theorem operandsField_textual : operandsField location (textual fields) =
    operandList location (fieldD "operands" (.list []) fields) := by
  induction fields with
  | nil => rfl
  | cons field rest ih =>
      obtain ⟨k, v⟩ := field
      rw [textual_cons, operandsField, text?_ofString]
      by_cases same : k = "operands"
      · simp [same, fieldD]
      · rw [if_neg fun h => same (Option.some.inj h), ih, fieldD, fieldD, lookup_other same]

theorem checkKeys_textual (known : List String) :
    checkKeys known location (textual fields) = .ok () ↔ ∀ field ∈ fields, field.1 ∈ known := by
  induction fields with
  | nil => exact iff_of_true rfl (List.forall_mem_nil _)
  | cons field rest ih =>
      obtain ⟨k, v⟩ := field
      have text : keyText? (.ofString k) = some k := rfl
      rw [List.forall_mem_cons, ← ih, textual_cons, checkKeys, text]
      by_cases mem : k ∈ known <;> simp [mem]

/-- All keys of an object are looked up by what they are, so none is refused that a role knows. -/
theorem Role.checkKeys_textual (role : Role) : role.checkKeys location (textual fields) = .ok () ↔
    ∀ field ∈ fields, field.1 ∈ role.keys := by
  unfold Role.checkKeys
  rw [Document.checkKeys_textual]
  refine forall₂_congr fun field mem => ?_
  have present : (field? field.1 (textual fields)).isSome = true := by
    rw [field?_textual, List.lookup_isSome_iff]
    exact ⟨field, mem, beq_self_eq_true _⟩
  rw [List.mem_filter, present]
  exact and_iff_left rfl

end Fields

/-! ### Nodes -/

mutual

/-- The node that some fields make: there are known keys alone, and of the known ones `predicate`
and `op` are null when they are left out, `params` and `operands` empty. -/
inductive Reads : Role → List (String × Value) → Node → Prop where
  | named {role fields name params} (known : ∀ field ∈ fields, field.1 ∈ role.keys)
      (hasPredicate : fieldD "predicate" .none fields = .ofString name)
      (noOp : fieldD "op" .none fields = .none)
      (hasParams : fieldD "params" (.list []) fields = .list params)
      (noOperands : fieldD "operands" (.list []) fields = .list []) :
      Reads role fields (.named name params)
  | group {role fields c items ns} (known : ∀ field ∈ fields, field.1 ∈ role.keys)
      (noPredicate : fieldD "predicate" .none fields = .none)
      (hasOp : fieldD "op" .none fields = .ofString (Connective.text c))
      (noParams : fieldD "params" (.list []) fields = .list [])
      (hasOperands : fieldD "operands" (.list []) fields = .list items)
      (operands : List.Forall₂ ReadsOperand items ns) : Reads role fields (.group c ns)

/-- The node that a value is as an operand: the one that its fields make. -/
inductive ReadsOperand : Value → Node → Prop where
  | object {fields n} (reads : Reads .operand fields n) : ReadsOperand (.object fields) n

end

theorem nodeOf_ok_iff {location : List String} {predicate : Option String} {params : List Value}
    {op : Option Connective} {operands : List Node} {n : Node} :
    nodeOf location predicate params op operands = .ok n ↔
      (∃ name, predicate = some name ∧ op = none ∧ operands = [] ∧ n = .named name params) ∨
      (∃ c, predicate = none ∧ op = some c ∧ params = [] ∧ n = .group c operands) := by
  cases predicate <;> cases op <;> cases params <;> cases operands <;>
    simp [nodeOf, eq_comm]

theorem assemble_ok_iff {role : Role} {location : List String} {entries : List (Value × Value)}
    {operands : Except Problem (List Node)} {r : RuleNode} :
    assemble role location entries operands = .ok r ↔
      ∃ predicate params op ns, predicateOf entries location = .ok predicate ∧
        paramsOf entries location = .ok params ∧ connectiveOf entries location = .ok op ∧
        operands = .ok ns ∧
        role.pathOf entries location = .ok r.path ∧
        role.checkKeys location entries = .ok () ∧
        nodeOf location predicate params op ns = .ok r.node := by
  unfold assemble
  constructor
  · intro h
    obtain ⟨predicate, hpredicate, h⟩ := Except.bind_ok_iff.mp h
    obtain ⟨params, hparams, h⟩ := Except.bind_ok_iff.mp h
    obtain ⟨op, hop, h⟩ := Except.bind_ok_iff.mp h
    obtain ⟨ns, hns, h⟩ := Except.bind_ok_iff.mp h
    obtain ⟨path, hpath, h⟩ := Except.bind_ok_iff.mp h
    obtain ⟨_, hkeys, h⟩ := Except.bind_ok_iff.mp h
    obtain ⟨node, hnode, h⟩ := Except.bind_ok_iff.mp h
    cases h
    exact ⟨predicate, params, op, ns, hpredicate, hparams, hop, hns, hpath, hkeys, hnode⟩
  · rintro ⟨predicate, params, op, ns, hpredicate, hparams, hop, hns, hpath, hkeys, hnode⟩
    refine Except.bind_ok_iff.mpr ⟨predicate, hpredicate, ?_⟩
    refine Except.bind_ok_iff.mpr ⟨params, hparams, ?_⟩
    refine Except.bind_ok_iff.mpr ⟨op, hop, ?_⟩
    refine Except.bind_ok_iff.mpr ⟨ns, hns, ?_⟩
    refine Except.bind_ok_iff.mpr ⟨r.path, hpath, ?_⟩
    refine Except.bind_ok_iff.mpr ⟨(), hkeys, ?_⟩
    exact Except.bind_ok_iff.mpr ⟨r.node, hnode, rfl⟩

/-! ### Fields of JSON -/

section Fields

variable {fields : List (String × Value)} {location : List String}

theorem lookup_isJson {key : String} {v : Value} (json : ∀ field ∈ fields, field.2.IsJson)
    (found : fields.lookup key = some v) : v.IsJson := by
  obtain ⟨before, after, split, -⟩ := List.lookup_eq_some_iff.mp found
  exact json (key, v) (split ▸ List.mem_append_right _ List.mem_cons_self)

theorem fieldD_isJson (key : String) {default : Value} (json : ∀ field ∈ fields, field.2.IsJson)
    (json' : default.IsJson) : (fieldD key default fields).IsJson := by
  unfold fieldD
  cases found : fields.lookup key with
  | none => exact json'
  | some v => exact lookup_isJson json found

theorem text?_eq_some_iff {v : Value} {s : String} (json : v.IsJson) :
    v.text? = some s ↔ v = .ofString s := by
  cases json <;> simp [Value.text?, Value.ofString, Value.object, Label.text]

theorem textOf_ok_iff {v : Value} {s : String} (json : v.IsJson) :
    textOf v location = .ok s ↔ v = .ofString s := by
  cases json <;> simp [textOf, Value.ofString, Value.object, Label.text]

theorem itemsOf_ok_iff {v : Value} {items : List Value} (json : v.IsJson) :
    itemsOf v location = .ok items ↔ v = .list items := by
  cases json <;> simp [itemsOf, isListLike, Value.items?, Value.ofString, Value.object]

theorem predicateOf_of {predicate : Option String}
    (h : fieldD "predicate" .none fields = predicate.elim .none .ofString) :
    predicateOf (textual fields) location = .ok predicate := by
  rw [predicateOf_textual, h]
  cases predicate <;> rfl

theorem of_predicateOf {predicate : Option String} (json : ∀ field ∈ fields, field.2.IsJson)
    (h : predicateOf (textual fields) location = .ok predicate) :
    fieldD "predicate" .none fields = predicate.elim .none .ofString := by
  rw [predicateOf_textual] at h
  have json' := fieldD_isJson "predicate" json .none
  split at h
  · rename_i null
    cases h
    exact null
  · obtain ⟨s, text, rfl⟩ := Except.map_ok_iff.mp h
    exact (textOf_ok_iff json').mp text

theorem connectiveOf_of {op : Option Connective}
    (h : fieldD "op" .none fields = op.elim .none (.ofString ·.text)) :
    connectiveOf (textual fields) location = .ok op := by
  rw [connectiveOf_textual, h]
  cases op with
  | none => rfl
  | some c => cases c <;> rfl

theorem of_connectiveOf {op : Option Connective} (json : ∀ field ∈ fields, field.2.IsJson)
    (h : connectiveOf (textual fields) location = .ok op) :
    fieldD "op" .none fields = op.elim .none (.ofString ·.text) := by
  rw [connectiveOf_textual] at h
  have json' := fieldD_isJson "op" json .none
  split at h
  · rename_i null
    cases h
    exact null
  · split at h
    · rename_i c found
      cases h
      obtain ⟨s, text, found⟩ := Option.bind_eq_some_iff.mp found
      rw [text?_eq_some_iff json'] at text
      rw [text, Connective.text_eq_of_ofText? found]
      rfl
    · exact nomatch h

end Fields

/-! ### Reading nodes -/

/-- The parts of a node and whether they go together: the two forms of a node at once. -/
theorem reads_iff {role : Role} {fields : List (String × Value)} {n : Node}
    (location : List String) :
    Reads role fields n ↔ ∃ predicate params op items ns,
      (∀ field ∈ fields, field.1 ∈ role.keys) ∧
      fieldD "predicate" .none fields = Option.elim predicate .none .ofString ∧
      fieldD "params" (.list []) fields = .list params ∧
      fieldD "op" .none fields = Option.elim op .none (.ofString ·.text) ∧
      fieldD "operands" (.list []) fields = .list items ∧
      List.Forall₂ ReadsOperand items ns ∧
      nodeOf location predicate params op ns = .ok n := by
  constructor
  · intro reads
    cases reads with
    | named known hasPredicate noOp hasParams noOperands =>
        exact ⟨some _, _, none, [], [], known, hasPredicate, hasParams, noOp, noOperands, .nil, rfl⟩
    | group known noPredicate hasOp noParams hasOperands operands =>
        exact ⟨none, [], some _, _, _, known, noPredicate, noParams, hasOp, hasOperands, operands,
          rfl⟩
  · rintro ⟨predicate, params, op, items, ns, known, hp, hparams, hop, hitems, operands, h⟩
    rcases nodeOf_ok_iff.mp h with ⟨name, rfl, rfl, rfl, rfl⟩ | ⟨c, rfl, rfl, rfl, rfl⟩
    · rw [List.forall₂_nil_right_iff] at operands
      exact .named known hp hop hparams (operands ▸ hitems)
    · exact .group known hp hop hparams hitems operands

theorem operands_nodeOf {location : List String} {predicate : Option String}
    {params : List Value} {op : Option Connective} {ns : List Node} {n : Node}
    (h : nodeOf location predicate params op ns = .ok n) : n.operands = ns := by
  rcases nodeOf_ok_iff.mp h with ⟨name, -, -, rfl, rfl⟩ | ⟨c, -, -, -, rfl⟩ <;> rfl

/-- The operands of a node that are read so far as `ReadsOperand` says make the node be read as
`Reads` says. -/
theorem assemble_of_reads {role : Role} {fields : List (String × Value)} {n : Node} {path : String}
    {location : List String} (reads : Reads role fields n)
    (hpath : role.pathOf (textual fields) location = .ok path)
    (operands : ∀ items, List.Forall₂ ReadsOperand items n.operands →
      operandItems (location ++ ["operands"]) 0 items = .ok n.operands) :
    assemble role location (textual fields)
      (operandsField (location ++ ["operands"]) (textual fields)) = .ok ⟨path, n⟩ := by
  obtain ⟨predicate, params, op, items, ns, known, hp, hparams, hop, hitems, each, h⟩ :=
    (reads_iff location).mp reads
  obtain rfl := operands_nodeOf h
  refine assemble_ok_iff.mpr ⟨predicate, params, op, n.operands, predicateOf_of hp, ?_,
    connectiveOf_of hop, ?_, hpath, (Role.checkKeys_textual role).mpr known, h⟩
  · rw [paramsOf_textual, hparams]
    rfl
  · rw [operandsField_textual, hitems]
    exact operands items each

theorem operandItems_eq_traverseFrom (location : List String) (i : Nat) (items : List Value) :
    operandItems location i items =
      Except.traverseFrom (fun i v => operandOf (itemLocation location i) v) i items := by
  induction items generalizing i with
  | nil => rfl
  | cons v vs ih =>
      rw [operandItems, Except.traverseFrom]
      simp only [ih]

theorem operandItems_of_reads {items : List Value} {ns : List Node}
    (each : ∀ n ∈ ns, ∀ v location, ReadsOperand v n → operandOf location v = .ok n)
    (location : List String) (i : Nat) (reads : List.Forall₂ ReadsOperand items ns) :
    operandItems location i items = .ok ns := by
  rw [operandItems_eq_traverseFrom]
  exact Except.traverseFrom_of_forall₂ reads fun v _ n mem _ => each n mem v _

/-- What is a node is read as that node. -/
theorem operandOf_of_reads (n : Node) (v : Value) (location : List String)
    (reads : ReadsOperand v n) : operandOf location v = .ok n := by
  induction n using Node.induction generalizing v location with
  | step n ih =>
      obtain ⟨reads⟩ := reads
      refine Except.map_ok_iff.mpr ⟨⟨"", n⟩, assemble_of_reads reads rfl ?_, rfl⟩
      exact fun items each => operandItems_of_reads ih _ _ each

/-! ### What is read from JSON -/

theorem operandList_json {v : Value} {location : List String} {ns : List Node} (json : v.IsJson)
    (h : operandList location v = .ok ns) :
    ∃ items, v = .list items ∧ operandItems location 0 items = .ok ns := by
  have refused (h : refuseItems location v = .ok ns) : ∃ items, v = .list items := by
    obtain ⟨items, found, -⟩ := Except.bind_ok_iff.mp h
    exact ⟨items, (itemsOf_ok_iff json).mp found⟩
  cases json with
  | list each => exact ⟨_, rfl, h⟩
  | none | bool | int | float | text | object =>
      obtain ⟨items, no⟩ := refused h
      exact nomatch no

theorem reads_of_assemble {role : Role} {fields : List (String × Value)} {r : RuleNode}
    {location : List String} (json : ∀ field ∈ fields, field.2.IsJson)
    (h : assemble role location (textual fields)
      (operandsField (location ++ ["operands"]) (textual fields)) = .ok r)
    (operands : ∀ items, (∀ v ∈ items, v.IsJson) →
      operandItems (location ++ ["operands"]) 0 items = .ok r.node.operands →
      List.Forall₂ ReadsOperand items r.node.operands) :
    Reads role fields r.node ∧ role.pathOf (textual fields) location = .ok r.path := by
  obtain ⟨predicate, params, op, ns, hp, hparams, hop, hns, hpath, known, h⟩ := assemble_ok_iff.mp h
  rw [operandsField_textual] at hns
  have jsonOperands := fieldD_isJson "operands" json (.list (List.forall_mem_nil _))
  have jsonParams := fieldD_isJson "params" json (.list (List.forall_mem_nil _))
  obtain ⟨items, hitems, hns⟩ := operandList_json jsonOperands hns
  rw [paramsOf_textual, itemsOf_ok_iff jsonParams] at hparams
  obtain rfl := operands_nodeOf h
  have each : ∀ v ∈ items, v.IsJson := Value.isJson_list_iff.mp (hitems ▸ jsonOperands)
  refine ⟨(reads_iff location).mpr ?_, hpath⟩
  exact ⟨predicate, params, op, items, r.node.operands, (Role.checkKeys_textual role).mp known,
    of_predicateOf json hp, hparams, of_connectiveOf json hop, hitems, operands items each hns, h⟩

theorem reads_of_operandItems {items : List Value} {ns : List Node}
    (each : ∀ n ∈ ns, ∀ v location, v.IsJson → operandOf location v = .ok n → ReadsOperand v n)
    (json : ∀ v ∈ items, v.IsJson) {location : List String} {i : Nat}
    (h : operandItems location i items = .ok ns) : List.Forall₂ ReadsOperand items ns := by
  rw [operandItems_eq_traverseFrom] at h
  exact Except.forall₂_of_traverseFrom h fun v inItems n mem _ => each n mem v _ (json v inItems)

/-- Of the values of JSON, only what is a node is read as one. -/
theorem reads_of_operandOf (n : Node) (v : Value) (location : List String) (json : v.IsJson)
    (h : operandOf location v = .ok n) : ReadsOperand v n := by
  induction n using Node.induction generalizing v location with
  | step n ih =>
      cases json with
      | object json =>
          obtain ⟨r, assembled, rfl⟩ := Except.map_ok_iff.mp h
          refine .object (reads_of_assemble json assembled fun items json h => ?_).1
          exact reads_of_operandItems ih json h
      | none | bool | int | float | text | list => exact nomatch h

/-! ### Rules and documents -/

/-- The rule that a value is: a node with an attribute. -/
inductive ReadsRule : Value → RuleNode → Prop where
  | object {fields path n} (hasAttribute : fields.lookup "attribute" = some (.ofString path))
      (reads : Reads .rule fields n) : ReadsRule (.object fields) ⟨path, n⟩

/-- The rules that a document holds, none if it is empty. -/
inductive ReadsDocument : Value → List RuleNode → Prop where
  | object {fields items rs} (known : ∀ field ∈ fields, field.1 ∈ Role.document.keys)
      (rules : fieldD "rules" (.list []) fields = .list items)
      (each : List.Forall₂ ReadsRule items rs) : ReadsDocument (.object fields) rs

theorem pathOf_rule_ok_iff {fields : List (String × Value)} {location : List String}
    {path : String} :
    Role.rule.pathOf (textual fields) location = .ok path ↔
      ∃ v, fields.lookup "attribute" = some v ∧
        textOf v (location ++ ["attribute"]) = .ok path := by
  rw [Role.pathOf, if_pos rfl, attributeOf, field?_textual]
  cases fields.lookup "attribute" with
  | none => simp
  | some v => simp

theorem ruleOf_of_reads {v : Value} {r : RuleNode} (location : List String)
    (reads : ReadsRule v r) : ruleOf location v = .ok r := by
  obtain ⟨hasAttribute, reads⟩ := reads
  refine assemble_of_reads reads ?_ fun items each => ?_
  · exact pathOf_rule_ok_iff.mpr ⟨_, hasAttribute, rfl⟩
  · exact operandItems_of_reads (fun n _ => operandOf_of_reads n) _ _ each

theorem reads_of_ruleOf {v : Value} {r : RuleNode} {location : List String} (json : v.IsJson)
    (h : ruleOf location v = .ok r) : ReadsRule v r := by
  cases json with
  | object json =>
      obtain ⟨reads, hpath⟩ := reads_of_assemble json h fun items json h =>
        reads_of_operandItems (fun n _ => reads_of_operandOf n) json h
      obtain ⟨v, hasAttribute, text⟩ := pathOf_rule_ok_iff.mp hpath
      rw [textOf_ok_iff (lookup_isJson json hasAttribute)] at text
      exact .object (text ▸ hasAttribute) reads
  | none | bool | int | float | text | list => exact nomatch h

theorem ruleItems_eq_traverseFrom (i : Nat) (items : List Value) :
    ruleItems i items =
      Except.traverseFrom (fun i v => ruleOf (itemLocation ["rules"] i) v) i items := by
  induction items generalizing i with
  | nil => rfl
  | cons v vs ih =>
      rw [ruleItems, Except.traverseFrom]
      simp only [ih]

theorem ruleItems_of_reads {items : List Value} {rs : List RuleNode} (i : Nat)
    (reads : List.Forall₂ ReadsRule items rs) : ruleItems i items = .ok rs := by
  rw [ruleItems_eq_traverseFrom]
  exact Except.traverseFrom_of_forall₂ reads fun _ _ _ _ _ => ruleOf_of_reads _

theorem reads_of_ruleItems {items : List Value} {rs : List RuleNode} {i : Nat}
    (json : ∀ v ∈ items, v.IsJson) (h : ruleItems i items = .ok rs) :
    List.Forall₂ ReadsRule items rs := by
  rw [ruleItems_eq_traverseFrom] at h
  exact Except.forall₂_of_traverseFrom h fun v inItems _ _ _ => reads_of_ruleOf (json v inItems)

theorem rulesOf_object (fields : List (String × Value)) : rulesOf (.object fields) = (do
    let items ← itemsOf (fieldD "rules" (.list []) fields) ["rules"]
    let rules ← ruleItems 0 items
    Role.document.checkKeys [] (textual fields)
    return rules) := by
  have entries : entriesOf .document [] (.object fields) = .ok (textual fields) := rfl
  rw [rulesOf, entries, Except.ok_bind, field?_textual, fieldD]
  cases fields.lookup "rules" with
  | none => rfl
  | some v => rfl

/-- What holds rules as a document is read as those rules. -/
theorem rulesOf_of_reads {document : Value} {rs : List RuleNode}
    (reads : ReadsDocument document rs) : rulesOf document = .ok rs := by
  obtain ⟨known, rules, each⟩ := reads
  rw [rulesOf_object, rules]
  refine Except.bind_ok_iff.mpr ⟨_, rfl, ?_⟩
  refine Except.bind_ok_iff.mpr ⟨_, ruleItems_of_reads 0 each, ?_⟩
  exact Except.bind_ok_iff.mpr ⟨(), (Role.checkKeys_textual .document).mpr known, rfl⟩

/-- Of the values of JSON, only what holds rules as a document is read as one. -/
theorem reads_of_rulesOf {document : Value} {rs : List RuleNode} (json : document.IsJson)
    (h : rulesOf document = .ok rs) : ReadsDocument document rs := by
  cases json with
  | object json =>
      rw [rulesOf_object] at h
      obtain ⟨items, hitems, h⟩ := Except.bind_ok_iff.mp h
      obtain ⟨rules, hrules, h⟩ := Except.bind_ok_iff.mp h
      obtain ⟨_, known, h⟩ := Except.bind_ok_iff.mp h
      cases h
      have jsonRules := fieldD_isJson "rules" json (.list (List.forall_mem_nil _))
      rw [itemsOf_ok_iff jsonRules] at hitems
      have each : ∀ v ∈ items, v.IsJson := Value.isJson_list_iff.mp (hitems ▸ jsonRules)
      exact .object ((Role.checkKeys_textual .document).mp known) hitems
        (reads_of_ruleItems each hrules)
  | none | bool | int | float | text | list => exact nomatch h

end Document

end RecordRules
