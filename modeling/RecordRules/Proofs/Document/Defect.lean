import RecordRules.Proofs.Document.Denotation

/-!
The first defect of a document.

A document is made of sites: nodes at their places, and the paths of rules. `sites` puts them in the
order in which they are built: rules in their order, operands from the left and before the group
that they belong to, and the path of a rule last. What is wrong with one site, when everything in it
has been built, says `Site.Raises`, which knows nothing of the others. A document is refused with
what the first site raises that raises any (`RuleSet.ofDocumentBy_stops`).
-/

namespace RecordRules

namespace Document

open Number

/-! ### Places in a document -/

/-- A place in a document: a rule by its number, then the operands that lead on from it. -/
structure Place where
  rule : Nat
  operands : List Nat

namespace Place

def operand (p : Place) (j : Nat) : Place := ⟨p.rule, p.operands ++ [j]⟩

/-- The steps that lead to a place from the document as a whole. -/
def steps (p : Place) : List String :=
  ["rules", showNat p.rule] ++ p.operands.flatMap fun j => ["operands", showNat j]

/-- The address of a place: its steps, with dots between them. -/
def address (p : Place) : String := ".".intercalate p.steps

theorem steps_operand (p : Place) (j : Nat) :
    (p.operand j).steps = p.steps ++ ["operands", showNat j] := by
  rw [steps, steps, operand, List.flatMap_append, List.append_assoc, List.flatMap_singleton]

theorem address_rule (i : Nat) : (Place.mk i []).address = "rules." ++ showNat i := by
  have steps : (Place.mk i []).steps = ["rules"] ++ [showNat i] := rfl
  rw [address, steps, String.intercalate_append_of_ne_nil (by simp) (by simp)]
  rfl

theorem address_operand (p : Place) (j : Nat) :
    (p.operand j).address = p.address ++ ".operands." ++ showNat j := by
  have last : ".".intercalate ["operands", showNat j] = "operands" ++ "." ++ showNat j := by
    rw [String.intercalate_cons_cons, String.intercalate_singleton]
  have dotted : ".operands." = "." ++ ("operands" ++ ".") := rfl
  rw [address, steps_operand, String.intercalate_append_of_ne_nil (by simp [steps]) (by simp), last,
    dotted, address]
  simp only [String.append_assoc]

end Place

/-! ### Sites -/

/-- What a document is made of, at its place: a node, or the path of a rule. -/
inductive Site where
  | node (place : Place) (n : Node)
  | path (rule : Nat) (path : String)

mutual

/-- The sites of a node at a place: those of its operands from the left, then the node itself. -/
def nodeSites (p : Place) : Node → List Site
  | .named name params => [.node p (.named name params)]
  | .group op operands => operandSites p 0 operands ++ [.node p (.group op operands)]

def operandSites (p : Place) (i : Nat) : List Node → List Site
  | [] => []
  | n :: ns => nodeSites (p.operand i) n ++ operandSites p (i + 1) ns

end

/-- The sites of a rule: those of its node, and its path last. -/
def ruleSites (i : Nat) (r : RuleNode) : List Site := nodeSites ⟨i, []⟩ r.node ++ [.path i r.path]

/-- The sites of the rules of a document, rule after rule. -/
def sites (rules : List RuleNode) : List Site :=
  rules.zipIdx.flatMap fun r => ruleSites r.2 r.1

theorem operandSites_eq (p : Place) (i : Nat) (ns : List Node) :
    operandSites p i ns = (ns.zipIdx i).flatMap fun n => nodeSites (p.operand n.2) n.1 := by
  induction ns generalizing i with
  | nil => rfl
  | cons n ns ih =>
      rw [operandSites, ih]
      rfl

/-! ### What is wrong with a site -/

/-- What a site raises when everything in it has been built: a word that stands for no class, a
name that no predicate has, parameters that the predicate does not take, a group without operands,
a negation of several, or a path that cannot address anything. -/
inductive Site.Raises (checks : Checks) (reg : Registry) : Site → Fault → Prop where
  | unknownClass {place v rest} (unknown : ∀ c, ¬ StandsFor v c) :
      Raises checks reg (.node place (.named Builtin.type.text (v :: rest)))
        (.definition (.unknownClass v (place.address ++ ".params.0")))
  | unknownPredicate {place name given params} (resolves : Resolves name given params)
      (unknown : reg.get? name = none) :
      Raises checks reg (.node place (.named name given))
        (.unknownPredicate (.plain name) (reg.names.map .plain))
  | parameterCount {place name given params p} (resolves : Resolves name given params)
      (found : reg.get? name = some p) (differ : params.length ≠ p.arity) :
      Raises checks reg (.node place (.named name given))
        (.definition (.parameterCount p.key p.arity params.length))
  | refusedParams {place name given params p f} (resolves : Resolves name given params)
      (found : reg.get? name = some p) (count : params.length = p.arity)
      (refused : checks p params = .error f) :
      Raises checks reg (.node place (.named name given)) f
  | emptyGroup {place op} :
      Raises checks reg (.node place (.group op [])) (.definition (.emptyGroup op place.address))
  | crowdedNegation {place ns} (several : 2 ≤ ns.length) :
      Raises checks reg (.node place (.group .not ns))
        (.definition (.crowdedNegation place.address))
  | blankPath {rule path} (blank : Text.isBlankText path = true) :
      Raises checks reg (.path rule path) (.ofPath (.ofString path) "must not be empty")
  | emptySegment {rule path} (notBlank : Text.isBlankText path = false)
      (segment : "" ∈ Text.splitOn "." path) :
      Raises checks reg (.path rule path)
        (.ofPath (.ofString path) "contains an empty segment")

section Building

variable {checks : Checks} {reg : Registry} {f : Fault}

theorem classOf_error_iff {v : Value} {address : String} :
    classOf v address = .error f ↔
      (∀ c, ¬ StandsFor v c) ∧ f = .definition (.unknownClass v address) := by
  cases found : classOf v address with
  | ok c =>
      refine iff_of_false nofun fun unknown => ?_
      exact unknown.1 c (classOf_ok_iff.mp found)
  | error g =>
      have unknown : ∀ c, ¬ StandsFor v c := by
        intro c stands
        cases found.symm.trans (classOf_ok_iff.mpr stands)
      have raised : g = .definition (.unknownClass v address) := by
        unfold classOf at found
        split at found
        · cases found
        · split at found
          · cases found
          · exact (Except.error.inj found).symm
      rw [Except.error.injEq, raised, and_iff_right unknown]
      exact eq_comm

theorem resolveParams_error_iff {name address : String} {given : List Value} :
    resolveParams name address given = .error f ↔
      ∃ v rest, name = Builtin.type.text ∧ given = v :: rest ∧ (∀ c, ¬ StandsFor v c) ∧
        f = .definition (.unknownClass v (address ++ ".params.0")) := by
  cases given with
  | nil =>
      refine iff_of_false nofun ?_
      rintro ⟨v, rest, -, none, -⟩
      cases none
  | cons v rest =>
      unfold resolveParams
      dsimp only
      by_cases isType : name = Builtin.type.text
      · rw [if_pos isType, Except.bind_error_iff]
        constructor
        · rintro (refused | ⟨c, -, later⟩)
          · obtain ⟨unknown, rfl⟩ := classOf_error_iff.mp refused
            exact ⟨v, rest, isType, rfl, unknown, rfl⟩
          · cases later
        · rintro ⟨w, others, -, same, unknown, rfl⟩
          cases same
          exact .inl (classOf_error_iff.mpr ⟨unknown, rfl⟩)
      · rw [if_neg isType]
        refine iff_of_false nofun ?_
        rintro ⟨w, others, type, -⟩
        exact isType type

theorem resolve_error_iff {name : String} :
    reg.resolve name = .error f ↔
      reg.get? name = none ∧ f = .unknownPredicate (.plain name) (reg.names.map .plain) := by
  unfold Registry.resolve
  cases reg.get? name with
  | none => simp [eq_comm]
  | some p => exact iff_of_false nofun fun unknown => nomatch unknown.1

theorem bindBy_error_iff {p : Predicate} {params : List Value} :
    Expr.bindBy checks p params = .error f ↔
      (params.length ≠ p.arity ∧ f = .definition (.parameterCount p.key p.arity params.length)) ∨
        params.length = p.arity ∧ checks p params = .error f := by
  unfold Expr.bindBy
  by_cases count : params.length = p.arity
  · rw [if_neg (not_not.mpr count), Except.bind_error_iff]
    constructor
    · rintro (refused | ⟨_, -, later⟩)
      · exact .inr ⟨count, refused⟩
      · cases later
    · rintro (⟨differ, -⟩ | ⟨-, refused⟩)
      · exact absurd count differ
      · exact .inl refused
  · rw [if_pos count]
    constructor
    · intro h
      exact .inl ⟨count, (Except.error.inj h).symm⟩
    · rintro (⟨-, rfl⟩ | ⟨same, -⟩)
      · rfl
      · exact absurd same count

theorem combine_error_iff {op : Connective} {address : String} {es : List Expr} :
    combine op address es = .error f ↔
      (es = [] ∧ f = .definition (.emptyGroup op address)) ∨
        op = .not ∧ 2 ≤ es.length ∧ f = .definition (.crowdedNegation address) := by
  constructor
  · intro h
    match op, es, h with
    | .and, [], rfl | .or, [], rfl | .not, [], rfl => exact .inl ⟨rfl, rfl⟩
    | .not, _ :: _ :: _, rfl => exact .inr ⟨rfl, by simp, rfl⟩
    | .and, [_], h | .or, [_], h | .and, _ :: _ :: _, h | .or, _ :: _ :: _, h => cases h
  · rintro (⟨rfl, rfl⟩ | ⟨rfl, several, rfl⟩)
    · cases op <;> rfl
    · match es, several with
      | _ :: _ :: _, _ => rfl

/-- What a group raises when its operands have been built. -/
theorem combine_group_error_iff {place : Place} {op : Connective} {ns : List Node} {es : List Expr}
    (lengths : ns.length = es.length) :
    combine op place.address es = .error f ↔
      (Site.node place (.group op ns)).Raises checks reg f := by
  rw [combine_error_iff]
  constructor
  · rintro (⟨rfl, rfl⟩ | ⟨rfl, several, rfl⟩)
    · obtain rfl := List.eq_nil_of_length_eq_zero lengths
      exact .emptyGroup
    · exact .crowdedNegation (lengths ▸ several)
  · intro raised
    cases raised with
    | emptyGroup => exact .inl ⟨List.eq_nil_of_length_eq_zero lengths.symm, rfl⟩
    | crowdedNegation several => exact .inr ⟨rfl, lengths ▸ several, rfl⟩

/-- What a name with parameters raises. -/
theorem build_named_error_iff {place : Place} {name : String} {given : List Value} :
    build checks reg place.address (.named name given) = .error f ↔
      (Site.node place (.named name given)).Raises checks reg f := by
  rw [build, Except.bind_error_iff, resolveParams_error_iff]
  constructor
  · rintro (⟨v, rest, rfl, rfl, unknown, rfl⟩ | ⟨params, resolves, h⟩)
    · exact .unknownClass unknown
    · have resolves := resolveParams_ok_iff.mp resolves
      rcases Except.bind_error_iff.mp h with refused | ⟨p, found, h⟩
      · obtain ⟨unknown, rfl⟩ := resolve_error_iff.mp refused
        exact .unknownPredicate resolves unknown
      · have found := Registry.resolve_ok_iff.mp found
        rcases bindBy_error_iff.mp h with ⟨differ, rfl⟩ | ⟨count, refused⟩
        · exact .parameterCount resolves found differ
        · exact .refusedParams resolves found count refused
  · intro raised
    cases raised with
    | unknownClass unknown => exact .inl ⟨_, _, rfl, rfl, unknown, rfl⟩
    | unknownPredicate resolves unknown =>
        refine .inr ⟨_, resolveParams_ok_iff.mpr resolves, Except.bind_error_iff.mpr (.inl ?_)⟩
        exact resolve_error_iff.mpr ⟨unknown, rfl⟩
    | parameterCount resolves found differ =>
        refine .inr ⟨_, resolveParams_ok_iff.mpr resolves, Except.bind_error_iff.mpr (.inr ?_)⟩
        exact ⟨_, Registry.resolve_ok_iff.mpr found, bindBy_error_iff.mpr (.inl ⟨differ, rfl⟩)⟩
    | refusedParams resolves found count refused =>
        refine .inr ⟨_, resolveParams_ok_iff.mpr resolves, Except.bind_error_iff.mpr (.inr ?_)⟩
        exact ⟨_, Registry.resolve_ok_iff.mpr found, bindBy_error_iff.mpr (.inr ⟨count, refused⟩)⟩

/-- What the path of a rule raises. -/
theorem make_error_iff {i : Nat} {path : String} {e : Expr} :
    Rule.make (.ofString path) (.expr e) = .error f ↔ (Site.path i path).Raises checks reg f := by
  have refused : Rule.make (.ofString path) (.expr e) = .error f ↔
      Label.ofPath (.ofString path) = .error f := by
    refine Except.bind_error_iff.trans (or_iff_left ?_)
    rintro ⟨label, -, later⟩
    cases later
  rw [refused]
  constructor
  · intro h
    unfold Label.ofPath Value.ofString at h
    dsimp only at h
    split at h
    · rename_i blank
      cases h
      exact .blankPath blank
    · rename_i notBlank
      split at h
      · rename_i segment
        cases h
        exact .emptySegment (Bool.eq_false_iff.mpr notBlank) (hasEmptySegment_eq_true.mp segment)
      · cases h
  · intro raised
    cases raised with
    | blankPath blank => exact if_pos blank
    | emptySegment notBlank segment =>
        exact (if_neg (Bool.eq_false_iff.mp notBlank)).trans
          (if_pos (hasEmptySegment_eq_true.mpr segment))

/-- A node is built in the order of its sites: those of its operands are gone through before the
node itself is looked at. -/
theorem build_stops (n : Node) (place : Place) :
    Except.StopsAtFirst (Site.Raises checks reg) (nodeSites place n)
      (build checks reg place.address n) := by
  induction n using Node.induction generalizing place with
  | step n ih =>
      cases n with
      | named name given =>
          rw [nodeSites]
          exact .single fun f => build_named_error_iff
      | group op ns =>
          rw [nodeSites, build, operandSites_eq, buildAll_eq_traverseFrom]
          refine .bind (.traverseFrom (g := fun i n => nodeSites (place.operand i) n) ?_ 0) ?_
          · intro n mem i
            rw [← Place.address_operand]
            exact ih n mem (place.operand i)
          · intro es built
            -- what is wrong with the group is told by the number of its operands
            exact .single fun f => combine_group_error_iff (Except.length_of_traverseFrom built)

/-- A rule is built in the order of its sites. -/
theorem buildRule_stops (i : Nat) (r : RuleNode) :
    Except.StopsAtFirst (Site.Raises checks reg) (ruleSites i r) (buildRule checks reg i r) := by
  rw [ruleSites, buildRule, ← Place.address_rule]
  exact .bind (build_stops r.node ⟨i, []⟩) fun e _ => .single fun f => make_error_iff

/-- Rules are built in the order of their sites. -/
theorem buildRules_stops (nodes : List RuleNode) :
    Except.StopsAtFirst (Site.Raises checks reg) (sites nodes)
      (buildRules checks reg 0 nodes) := by
  rw [buildRules_eq_traverseFrom]
  exact .traverseFrom (fun r _ i => buildRule_stops i r) 0

end Building

end Document

/-- A document whose rules can be read is built in the order of its sites. -/
theorem RuleSet.ofDocumentBy_stops {checks : Checks} {reg : Registry} {document : Value}
    {nodes : List RuleNode} (read : Document.rulesOf document = .ok nodes) :
    Except.StopsAtFirst (Document.Site.Raises checks reg) (Document.sites nodes)
      (ofDocumentBy checks reg document) := by
  rw [ofDocumentBy, read, Except.mapError, Except.ok_bind]
  have built : Except.StopsAtFirst (Document.Site.Raises checks reg) (Document.sites nodes)
      (Document.buildRules checks reg 0 nodes) := Document.buildRules_stops nodes
  have done := built.bind fun rules _ => .nil (RuleSet.mk rules)
  rw [List.append_nil] at done
  exact done

end RecordRules
