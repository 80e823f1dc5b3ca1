import RecordRules.Fault.Report
import RecordRules.Proofs.Document.Defect
import RecordRules.Proofs.Document.Schema
import RecordRules.Proofs.Number.Digits
import RecordRules.Proofs.Text.Splitting

/-!
Addresses in documents.

The address of a place says how to go there from the document as a whole: each step names an entry
of a dictionary or numbers an item of a list. `Value.at?` goes there. What is read as a node at some
place has its operands where their places say (`Place.Reads.operand`), so the address of every node
leads to it, and to no other node (`leadsTo_of_sites`). The faults of groups and of words for
classes give such addresses: `RuleSet.refused_for_first_defect`.
-/

namespace RecordRules

open Number Document

/-! ### Numbers in addresses -/

namespace Number

theorem isSegment_showNat (n : Nat) : Text.IsSegment "." (showNat n) := by
  refine ⟨showNat_ne_empty n, fun c mem dot => ?_⟩
  have dot : c = '.' := List.mem_singleton.mp dot
  cases (isDigit_of_mem_showNat n c mem).symm.trans (congrArg Char.isDigit dot)

end Number

/-! ### Following an address -/

namespace Value

/-- What one step of an address leads to: in a dictionary the entry under it, in what can stand for
a list the item with its number. -/
def partAt? (v : Value) (step : String) : Option Value :=
  match v with
  | .dict _ entries => Document.field? step entries
  | .mapping m => Document.field? step m.entries
  | v => if isListLike v then (readNat? step).bind ((v.items?.getD [])[·]?) else Option.none

/-- What some steps lead to, one after another. -/
def follow? (v : Value) (steps : List String) : Option Value := steps.foldlM partAt? v

/-- What an address leads to: its steps stand between dots. -/
def at? (v : Value) (address : String) : Option Value := v.follow? (Text.splitOn "." address)

theorem follow?_append (v : Value) (first later : List String) :
    v.follow? (first ++ later) = (v.follow? first).bind (·.follow? later) := by
  rw [follow?, List.foldlM_append]
  rfl

end Value

namespace Document

namespace Place

theorem isSegment_steps (p : Place) : ∀ step ∈ p.steps, Text.IsSegment "." step := by
  intro step mem
  simp only [steps, List.mem_append, List.mem_cons, List.not_mem_nil, or_false,
    List.mem_flatMap] at mem
  rcases mem with (rfl | rfl) | ⟨j, -, rfl | rfl⟩
  · decide
  · exact isSegment_showNat _
  · decide
  · exact isSegment_showNat _

theorem splitOn_address (p : Place) : Text.splitOn "." p.address = p.steps :=
  Text.splitOn_intercalate (by decide) (by simp [steps]) p.isSegment_steps

/-- The address of the first parameter at a place. -/
theorem splitOn_param (p : Place) :
    Text.splitOn "." (p.address ++ ".params.0") = p.steps ++ ["params", "0"] := by
  have joined : p.address ++ ".params.0" = ".".intercalate (p.steps ++ ["params", "0"]) := by
    rw [String.intercalate_append_of_ne_nil (by simp [steps]) (by simp), String.append_assoc]
    rfl
  rw [joined]
  refine Text.splitOn_intercalate (by decide) (by simp [steps]) fun step mem => ?_
  rcases List.mem_append.mp mem with inSteps | last
  · exact p.isSegment_steps step inSteps
  · simp only [List.mem_cons, List.not_mem_nil, or_false] at last
    rcases last with rfl | rfl <;> decide

theorem steps_injective : Function.Injective steps := by
  have rest : ∀ js ks : List Nat, js.flatMap (fun j => ["operands", showNat j]) =
      ks.flatMap (fun k => ["operands", showNat k]) → js = ks := by
    intro js
    induction js with
    | nil =>
        rintro (_ | ⟨k, ks⟩) same
        · rfl
        · cases same
    | cons j js ih =>
        rintro (_ | ⟨k, ks⟩) same
        · cases same
        · obtain ⟨-, same⟩ := List.cons.inj same
          obtain ⟨here, others⟩ := List.cons.inj same
          rw [showNat_injective here, ih ks others]
  rintro ⟨i, js⟩ ⟨k, ks⟩ same
  obtain ⟨-, same⟩ := List.cons.inj same
  obtain ⟨rule, operands⟩ := List.cons.inj same
  obtain rfl := showNat_injective rule
  rw [rest js ks operands]

/-- Different places have different addresses. -/
theorem address_injective : Function.Injective address := by
  intro p q same
  have steps := congrArg (Text.splitOn ".") same
  rw [splitOn_address, splitOn_address] at steps
  exact steps_injective steps

end Place

/-! ### What the parts of a document are read as -/

theorem partAt?_item {v : Value} {location : List String} {items : List Value}
    (read : itemsOf v location = .ok items) (j : Nat) : v.partAt? (showNat j) = items[j]? := by
  unfold itemsOf at read
  split at read
  · rename_i list
    cases read
    have part : v.partAt? (showNat j) = if isListLike v then
        (readNat? (showNat j)).bind ((v.items?.getD [])[·]?) else none := by
      cases v with
      | dict | mapping => cases list
      | _ => rfl
    rw [part, if_pos list, readNat?_showNat, Option.bind_some]
  · cases read

def dictEntries? : Value → Option (List (Value × Value))
  | .dict _ entries => some entries
  | .mapping m => some m.entries
  | _ => none

theorem partAt?_entry {v : Value} {entries : List (Value × Value)}
    (dict : dictEntries? v = some entries) (key : String) : v.partAt? key = field? key entries := by
  cases v with
  | dict | mapping => cases dict; rfl
  | _ => cases dict

theorem follow?_item {v list : Value} {entries : List (Value × Value)} {key : String}
    {location : List String} {items : List Value} (dict : dictEntries? v = some entries)
    (field : field? key entries = some list) (found : itemsOf list location = .ok items) (j : Nat) :
    v.follow? [key, showNat j] = items[j]? := by
  have steps : v.follow? [key, showNat j] =
      (v.partAt? key).bind fun w => (w.partAt? (showNat j)).bind some := rfl
  rw [steps, partAt?_entry dict, field, Option.bind_some, partAt?_item found, Option.bind_fun_some]

theorem dictEntries?_of_entriesOf {role : Role} {location : List String} {v : Value}
    {entries : List (Value × Value)} (read : entriesOf role location v = .ok entries) :
    dictEntries? v = some entries := by
  cases v with
  | dict => cases read; rfl
  | mapping m =>
      have read : entriesOfMapping location m.entries m.failing = .ok entries := read
      unfold entriesOfMapping at read
      split at read
      · cases read
      · cases read; rfl
  | _ => cases read

theorem operandsField_eq (location : List String) (entries : List (Value × Value)) :
    operandsField location entries =
      match field? "operands" entries with
      | none => .ok []
      | some v => operandList location v := by
  induction entries with
  | nil => rfl
  | cons entry entries ih =>
      obtain ⟨key, v⟩ := entry
      rw [operandsField]
      by_cases here : key.text? = some "operands"
      · simp [field?, here]
      · have other : (key.text? == some "operands") = false := beq_eq_false_iff_ne.mpr here
        rw [if_neg here, ih]
        simp only [field?, List.find?_cons, other]

theorem items_of_operandList {v : Value} {location : List String} {ns : List Node}
    (read : operandList location v = .ok ns) :
    ∃ items, itemsOf v location = .ok items ∧ operandItems location 0 items = .ok ns := by
  have refused (refused : refuseItems location v = .ok ns) :
      ∃ items, itemsOf v location = .ok items ∧ operandItems location 0 items = .ok ns := by
    obtain ⟨items, found, rest⟩ := Except.bind_ok_iff.mp refused
    cases items with
    | nil => exact ⟨[], found, rest⟩
    | cons => cases rest
  cases v with
  | list items | tuple items | set _ items => exact ⟨items, rfl, read⟩
  | _ => exact refused read

namespace Place

/-- A value at a place is read as a node: as that of a rule, or as an operand. -/
def Reads (p : Place) (v : Value) (n : Node) : Prop :=
  if p.operands = [] then ∃ path, ruleOf p.steps v = .ok ⟨path, n⟩ else operandOf p.steps v = .ok n

section Reads

variable {p : Place} {v : Value} {n : Node}

theorem reads_operand_iff {j : Nat} :
    (p.operand j).Reads v n ↔ operandOf (p.operand j).steps v = .ok n :=
  iff_of_eq (if_neg (List.append_ne_nil_of_right_ne_nil p.operands (List.cons_ne_nil j [])))

/-- What is read as a node is a dictionary whose entries make the node. -/
theorem Reads.assembled (reads : p.Reads v n) :
    ∃ role entries path, dictEntries? v = some entries ∧
      assemble role p.steps entries (operandsField (p.steps ++ ["operands"]) entries) =
        .ok ⟨path, n⟩ := by
  unfold Reads at reads
  split at reads
  · obtain ⟨path, read⟩ := reads
    obtain ⟨entries, found, assembled⟩ := Except.bind_ok_iff.mp read
    exact ⟨.rule, entries, path, dictEntries?_of_entriesOf found, assembled⟩
  · cases v with
    | dict readOnly entries =>
        obtain ⟨⟨path, _⟩, assembled, rfl⟩ := Except.map_ok_iff.mp reads
        exact ⟨.operand, entries, path, rfl, assembled⟩
    | mapping m =>
        obtain ⟨tag, label, entries, failing⟩ := m
        obtain ⟨_, -, reads⟩ := Except.bind_ok_iff.mp reads
        obtain ⟨⟨path, _⟩, assembled, rfl⟩ := Except.map_ok_iff.mp reads
        exact ⟨.operand, entries, path, rfl, assembled⟩
    | _ => cases reads

/-- An operand of a node is read from the item with its number. -/
theorem Reads.operand {j : Nat} {m : Node} (reads : p.Reads v n)
    (operand : n.operands[j]? = some m) :
    ∃ w, v.follow? ["operands", showNat j] = some w ∧ (p.operand j).Reads w m := by
  obtain ⟨role, entries, path, dict, assembled⟩ := reads.assembled
  obtain ⟨_, _, _, ns, -, -, -, read, -, -, made⟩ := assemble_ok_iff.mp assembled
  obtain rfl := operands_nodeOf made
  rw [operandsField_eq] at read
  cases field : field? "operands" entries with
  | none =>
      rw [field] at read
      rw [← Except.ok.inj read] at operand
      cases operand
  | some list =>
      rw [field] at read
      obtain ⟨items, found, read⟩ := items_of_operandList read
      rw [operandItems_eq_traverseFrom] at read
      obtain ⟨w, item, read⟩ := Except.getElem?_of_traverseFrom read operand
      rw [Nat.zero_add, itemLocation, List.append_assoc] at read
      refine ⟨w, (follow?_item dict field found j).trans item, reads_operand_iff.mpr ?_⟩
      exact (steps_operand p j).symm ▸ read

/-- A parameter of a predicate is the item with its number. -/
theorem Reads.param {name : String} {given : List Value} (reads : p.Reads v (.named name given))
    {j : Nat} {w : Value} (param : given[j]? = some w) :
    v.follow? ["params", showNat j] = some w := by
  obtain ⟨role, entries, path, dict, assembled⟩ := reads.assembled
  obtain ⟨_, params, _, ns, -, read, -, -, -, -, made⟩ := assemble_ok_iff.mp assembled
  rcases nodeOf_ok_iff.mp made with ⟨_, -, -, -, same⟩ | ⟨_, -, -, -, same⟩
  · cases same
    unfold paramsOf at read
    split at read
    · cases read
      cases param
    · rename_i list field
      exact (follow?_item dict field read j).trans param
  · cases same

end Reads

end Place

/-- A rule of a document is read from the item with its number. -/
theorem reads_of_rulesOf_at {document : Value} {nodes : List RuleNode}
    (read : rulesOf document = .ok nodes) {i : Nat} {r : RuleNode} (rule : nodes[i]? = some r) :
    ∃ w, document.follow? (Place.mk i []).steps = some w ∧ (Place.mk i []).Reads w r.node := by
  have steps : (Place.mk i []).steps = ["rules", showNat i] := rfl
  rw [steps]
  obtain ⟨entries, found, read⟩ := Except.bind_ok_iff.mp read
  cases field : field? "rules" entries with
  | none =>
      rw [field] at read
      obtain ⟨_, none, read⟩ := Except.bind_ok_iff.mp read
      obtain ⟨_, -, same⟩ := Except.bind_ok_iff.mp read
      cases none
      cases same
      cases rule
  | some list =>
      rw [field] at read
      obtain ⟨items, listed, read⟩ := Except.bind_ok_iff.mp read
      obtain ⟨rules, built, read⟩ := Except.bind_ok_iff.mp read
      obtain ⟨_, -, same⟩ := Except.bind_ok_iff.mp read
      cases same
      rw [ruleItems_eq_traverseFrom] at built
      obtain ⟨w, item, built⟩ := Except.getElem?_of_traverseFrom built rule
      rw [Nat.zero_add] at built
      have leads := follow?_item (dictEntries?_of_entriesOf found) field listed i
      exact ⟨w, leads.trans item, (if_pos rfl).mpr ⟨r.path, built⟩⟩

/-! ### Where sites are -/

/-- The steps to a site of a node lead from the document to a value that is read as the node
there, if those to the node do. -/
theorem leads_of_nodeSites {document v : Value} {n m : Node} {p q : Place}
    (leads : document.follow? p.steps = some v) (reads : p.Reads v n)
    (mem : Site.node q m ∈ nodeSites p n) :
    ∃ w, document.follow? q.steps = some w ∧ q.Reads w m := by
  -- over the node; the place goes down with it, and with the place the value that is read there
  induction n using Node.induction generalizing p v with
  | step n ih =>
      have here (same : Site.node q m = .node p n) :
          ∃ w, document.follow? q.steps = some w ∧ q.Reads w m := by
        cases same
        exact ⟨v, leads, reads⟩
      cases n with
      | named name given => exact here (List.mem_singleton.mp mem)
      | group op ns =>
          rw [nodeSites, operandSites_eq] at mem
          rcases List.mem_append.mp mem with inside | last
          · obtain ⟨⟨k, j⟩, operand, inside⟩ := List.mem_flatMap.mp inside
            have operand : ns[j]? = some k := List.mem_zipIdx_iff_getElem?.mp operand
            obtain ⟨w, next, reads⟩ := reads.operand operand
            refine ih k (List.mem_of_getElem? operand) ?_ reads inside
            rw [Place.steps_operand, Value.follow?_append, leads, Option.bind_some, next]
          · exact here (List.mem_singleton.mp last)

/-- The address of a node leads from the document to a value that is read as the node. -/
theorem leads_of_sites {document : Value} {nodes : List RuleNode}
    (read : rulesOf document = .ok nodes) {p : Place} {n : Node}
    (mem : Site.node p n ∈ sites nodes) :
    ∃ v, document.at? p.address = some v ∧ p.Reads v n := by
  rw [Value.at?, Place.splitOn_address]
  obtain ⟨⟨r, i⟩, rule, mem⟩ := List.mem_flatMap.mp mem
  have rule : nodes[i]? = some r := List.mem_zipIdx_iff_getElem?.mp rule
  obtain ⟨w, leads, reads⟩ := reads_of_rulesOf_at read rule
  dsimp only at mem
  rw [ruleSites] at mem
  rcases List.mem_append.mp mem with inside | last
  · exact leads_of_nodeSites leads reads inside
  · have other : Site.node p n = .path i r.path := List.mem_singleton.mp last
    cases other

/-- At a place a value is read as one node. -/
theorem Place.Reads.eq {p : Place} {v : Value} {n m : Node} (reads : p.Reads v n)
    (other : p.Reads v m) : n = m := by
  unfold Place.Reads at reads other
  split at reads
  · rw [if_pos ‹_›] at other
    obtain ⟨path, read⟩ := reads
    obtain ⟨path', read'⟩ := other
    cases read.symm.trans read'
    rfl
  · rw [if_neg ‹_›] at other
    exact Except.ok.inj (reads.symm.trans other)

/-- An address leads in a document to the value that is read as a node, and to no other node. -/
structure LeadsTo (document : Value) (nodes : List RuleNode) (address : String) (n : Node) :
    Prop where
  value : ∃ (p : Place) (v : Value),
    address = p.address ∧ document.at? address = some v ∧ p.Reads v n
  only : ∀ (p : Place) (m : Node), Site.node p m ∈ sites nodes → p.address = address → m = n

theorem leadsTo_of_sites {document : Value} {nodes : List RuleNode}
    (read : rulesOf document = .ok nodes) {p : Place} {n : Node}
    (mem : Site.node p n ∈ sites nodes) : LeadsTo document nodes p.address n := by
  obtain ⟨v, leads, reads⟩ := leads_of_sites read mem
  refine ⟨⟨p, v, rfl, leads, reads⟩, fun q m mem' same => ?_⟩
  obtain rfl := Place.address_injective same
  obtain ⟨w, leads', reads'⟩ := leads_of_sites read mem'
  cases leads.symm.trans leads'
  exact reads'.eq reads

/-- The address of the first parameter of a predicate leads to it. -/
theorem leads_to_param {document v : Value} {nodes : List RuleNode}
    (read : rulesOf document = .ok nodes) {p : Place} {name : String} {rest : List Value}
    (mem : Site.node p (.named name (v :: rest)) ∈ sites nodes) :
    document.at? (p.address ++ ".params.0") = some v := by
  obtain ⟨w, leads, reads⟩ := leads_of_sites read mem
  rw [Value.at?, Place.splitOn_address] at leads
  have zero : "0" = showNat 0 := by decide
  rw [Value.at?, Place.splitOn_param, Value.follow?_append, leads, Option.bind_some, zero]
  exact reads.param (List.getElem?_cons_zero)

end Document

/-! ### The first defect -/

open Document in
/-- **A document that can be read is refused for its first defect.** Rules are gone through in their
order, in a rule the operands from the left, each before the group that it belongs to, and the path
last: the fault is what the first site raises that raises any. If that is a group, the path of the
fault leads in the document to this group; if it is a word that stands for no class, to the word
among the parameters of its node. -/
theorem RuleSet.refused_for_first_defect (checks : Checks) (reg : Registry) {document : Value}
    {nodes : List RuleNode} (read : Document.rulesOf document = .ok nodes) :
    (∀ f, ofDocumentBy checks reg document = .error f ↔
      ∃ s, Except.FirstRaised (Site.Raises checks reg) (sites nodes) s f) ∧
    (∀ p op ns f, Except.FirstRaised (Site.Raises checks reg) (sites nodes)
        (.node p (.group op ns)) f →
      (∃ d, f = .definition d ∧ d.path = .ofString p.address) ∧
        LeadsTo document nodes p.address (.group op ns)) ∧
    ∀ p v rest f, Except.FirstRaised (Site.Raises checks reg) (sites nodes)
        (.node p (.named Builtin.type.text (v :: rest))) f → (∀ c, ¬ StandsFor v c) →
      (∃ d, f = .definition d ∧ d.path = .ofString (p.address ++ ".params.0")) ∧
        document.at? (p.address ++ ".params.0") = some v ∧
        LeadsTo document nodes p.address (.named Builtin.type.text (v :: rest)) := by
  refine ⟨ofDocumentBy_stops read, fun p op ns f first => ?_, fun p v rest f first unknown => ?_⟩
  · obtain ⟨before, after, split, -, raised⟩ := first
    have mem : Site.node p (.group op ns) ∈ sites nodes :=
      split ▸ List.mem_append_right before List.mem_cons_self
    refine ⟨?_, leadsTo_of_sites read mem⟩
    cases raised with
    | emptyGroup | crowdedNegation => exact ⟨_, rfl, rfl⟩
  · obtain ⟨before, after, split, -, raised⟩ := first
    have mem : Site.node p (.named Builtin.type.text (v :: rest)) ∈ sites nodes :=
      split ▸ List.mem_append_right before List.mem_cons_self
    refine ⟨?_, leads_to_param read mem, leadsTo_of_sites read mem⟩
    have unresolved {params : List Value} : ¬ Resolves Builtin.type.text (v :: rest) params := by
      rintro (plain | ⟨-, stands⟩)
      · cases plain rfl
      · exact unknown _ stands
    cases raised with
    | unknownClass => exact ⟨_, rfl, rfl⟩
    | unknownPredicate resolves | parameterCount resolves | refusedParams resolves =>
        exact absurd resolves unresolved

/-- A document whose second rule has a number for a class in a group inside a group, and after it a
negation without operands. -/
def numberedDocument : Value :=
  .object [("rules", .list [
    .object [("attribute", .ofString "name"), ("predicate", .ofString "filled?")],
    .object [("attribute", .ofString "age"), ("op", .ofString "and"), ("operands", .list [
      .object [("predicate", .ofString "filled?")],
      .object [("op", .ofString "or"), ("operands", .list [
        .object [("predicate", .ofString "type?"), ("params", .list [.int 7])],
        .object [("op", .ofString "not"), ("operands", .list [])]])]])]])]

/-- It is refused for the number, under the address of the number. -/
theorem RuleSet.refused_for_number :
    ∃ nodes, Document.rulesOf numberedDocument = .ok nodes ∧
      let address := "rules.1.operands.1.operands.0.params.0"
      numberedDocument.at? address = some (.int 7) ∧
      ∃ s, Except.FirstRaised (Document.Site.Raises Predicate.check (.standard 0))
        (Document.sites nodes) s (.definition (.unknownClass (.int 7) address)) := by
  refine ⟨_, rfl, by rfl, ?_⟩
  obtain ⟨first, -⟩ :=
    @refused_for_first_defect Predicate.check (.standard 0) numberedDocument _ rfl
  exact (first _).mp rfl

end RecordRules
