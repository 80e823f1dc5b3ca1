import RecordRules.Proofs.Expr.Equality
import RecordRules.Proofs.Value.Keys

/-!
Equality and keys.

Values that are the same have agreeing keys, if neither is made of anything without a key
(`Value.keysAgree_of_same`). Equal expressions, rules and rule sets have the same leaves, and
agreeing keys when each leaf has the key of the leaf at its place (`Expr.leaves_of_equal` and so
on). But a leaf whose parameters have no keys gets the key of their text, and equal parameters can
be written differently. So equal rule sets are found by their keys where the parameters of
corresponding leaves are keys or are written alike, and may be lost elsewhere.
-/

namespace RecordRules

namespace Value

/-- A value with a key such that whatever it is equal to has the same, if that is such a value too:
nothing that it is made of lacks a key. The key of a report is not made of what the report holds,
and a set with a key has members with keys. -/
inductive IsKey : Value → Prop
  | atom {v : Value} {k : HashKey} (form : v.form = .atom) (key : v.hashKey = .ok k) : IsKey v
  | ordered {v : Value} {s : Shape} {xs : List Value} (form : v.form = .ordered s xs)
      (fixed : ∀ n, s ≠ .list n) (parts : ∀ x ∈ xs, IsKey x) : IsKey v
  | report {v : Value} {s : Shape} {xs : List Value} (form : v.form = .ordered s xs)
      (report : s.isReport = true) : IsKey v
  | members {v : Value} {xs : List Value} {k : HashKey} (form : v.form = .members xs)
      (key : v.hashKey = .ok k) : IsKey v

section Same

variable {v w : Value}

theorem same_groupValue {g h : Label × List Error}
    (same : (groupValue g).same (groupValue h) = .ok true) :
    g.1.text = h.1.text ∧ g.2.length = h.2.length := by
  obtain ⟨_, form, items⟩ := exists_ordered_of_same (v := groupValue g) rfl same
  cases form
  obtain ⟨label, errors⟩ := List.forall₂_cons.mp (equalItems_eq_true_iff.mp items)
  have lengths := errors.length_eq
  rw [List.length_map, List.length_map] at lengths
  exact ⟨eq_of_beq (Except.ok.inj label), lengths⟩

theorem IsKey.exists_hashKey (key : v.IsKey) (unordered : ∀ s xs, v.form ≠ .ordered s xs) :
    ∃ k, v.hashKey = .ok k := by
  cases key with
  | atom _ key | members _ key => exact ⟨_, key⟩
  | ordered form | report form => exact absurd form (unordered _ _)

theorem IsKey.parts {s : Shape} {xs : List Value} (key : v.IsKey) (form : v.form = .ordered s xs)
    (noReport : s.isReport = false) : ∀ x ∈ xs, x.IsKey := by
  cases key with
  | ordered form' _ parts =>
      cases form.symm.trans form'
      exact parts
  | report form' report =>
      cases form.symm.trans form'
      cases noReport.symm.trans report
  | atom form' | members form' => cases form.symm.trans form'

/-- Values that are the same have agreeing keys, if they are keys. -/
theorem keysAgree_of_same (left : v.IsKey) (right : w.IsKey) (same : v.same w = .ok true) :
    v.keysAgree w = true := by
  induction left generalizing w with
  | @atom v k form key =>
      have atoms := sameAtom_of_same form same
      obtain ⟨l, key'⟩ : ∃ l, w.hashKey = .ok l := by
        refine right.exists_hashKey fun s xs form => ?_
        rcases atoms.symm.form_left with atom | ⟨m, rfl⟩
        · cases form.symm.trans atom
        · cases form
      exact keysAgree_of_sameAtom atoms key key'
  | @ordered v s xs form fixed parts ih =>
      obtain ⟨ys, form', items⟩ := exists_ordered_of_same form same
      rw [equalItems_eq_true_iff] at items
      have left := isOrdered_of_form form
      have left' := isOrdered_of_form form'
      cases report : s.isReport with
      | true => exact keysAgree_of_reports (fun g h => same_groupValue) left left' rfl report items
      | false =>
          have agree : PartsAgree xs ys := by
            refine forall₂_imp_of_mem items fun x inXs y inYs same => ?_
            exact ih x inXs (right.parts form' report y inYs) same
          refine (keysAgree_ordered_iff left left' rfl report).mpr ?_
          cases s with
          | list n => exact absurd rfl (fixed n)
          | bound _ => exact .inl agree
          | _ => exact agree
  | @report v s xs form report =>
      obtain ⟨ys, form', items⟩ := exists_ordered_of_same form same
      exact keysAgree_of_reports (fun g h => same_groupValue) (isOrdered_of_form form)
        (isOrdered_of_form form') rfl report (equalItems_eq_true_iff.mp items)
  | @members v xs k form key =>
      obtain ⟨ys, form', lengths, members⟩ := exists_members_of_same form same
      have key' := right.exists_hashKey fun s xs ordered => nomatch form'.symm.trans ordered
      refine (keysAgree_members_iff form form').mpr ⟨⟨k, key⟩, key', lengths, fun x inXs => ?_⟩
      obtain ⟨y, inYs, agree, -⟩ := exists_of_equalMembers members x inXs
      exact ⟨y, inYs, agree⟩

end Same

end Value

/-! ### Expressions -/

/-- Leaves of predicates with one name and the same parameters. -/
def Leaf.Same (l m : Leaf) : Prop :=
  l.1.key = m.1.key ∧ equalItems l.2 m.2 = .ok true

/-- The keys of two leaves agree as far as their parameters go. -/
def Leaf.KeysAgree (l m : Leaf) : Prop :=
  Value.PartsAgree l.2 m.2 ∨ Value.TextsAgree l.2 m.2

namespace Expr

variable {e f : Expr} {es fs : List Expr}

theorem equalOperands_eq_true_iff :
    equalOperands es fs = .ok true ↔ List.Forall₂ (fun e f => e.equal f = .ok true) es fs := by
  rw [equalOperands_eq, equalItems_eq_true_iff, List.forall₂_map_left_iff,
    List.forall₂_map_right_iff]
  rfl

theorem agrees_operands_iff :
    (HashKey.sequence (operandHashKeys es)).agrees (.sequence (operandHashKeys fs)) = true ↔
      List.Forall₂ (fun e f => e.hashKey.agrees f.hashKey = true) es fs := by
  rw [← Value.partsAgree_iff_of_keys (Value.hashKeys_operands es) (Value.hashKeys_operands fs),
    Value.PartsAgree, List.forall₂_map_left_iff, List.forall₂_map_right_iff]
  rfl

theorem leaves_of_operands (equal : equalOperands es fs = .ok true)
    (each : ∀ e ∈ es, ∀ f : Expr, e.equal f = .ok true → List.Forall₂ Leaf.Same e.leaves f.leaves ∧
      (e.hashKey.agrees f.hashKey = true ↔ List.Forall₂ Leaf.KeysAgree e.leaves f.leaves)) :
    List.Forall₂ Leaf.Same (leavesOf es) (leavesOf fs) ∧
      ((HashKey.sequence (operandHashKeys es)).agrees (.sequence (operandHashKeys fs)) = true ↔
        List.Forall₂ Leaf.KeysAgree (leavesOf es) (leavesOf fs)) := by
  rw [leavesOf_eq_flatMap, leavesOf_eq_flatMap, agrees_operands_iff]
  refine forall₂_flatMap (forall₂_imp_of_mem (equalOperands_eq_true_iff.mp equal) ?_)
  exact fun e inEs f _ => each e inEs f

/-- Equal expressions have the same leaves one by one, and agreeing keys when their leaves have. -/
theorem leaves_of_equal (equal : e.equal f = .ok true) :
    List.Forall₂ Leaf.Same e.leaves f.leaves ∧
      (e.hashKey.agrees f.hashKey = true ↔ List.Forall₂ Leaf.KeysAgree e.leaves f.leaves) := by
  induction e using Expr.induction generalizing f with
  | bound p params =>
      cases f with
      | bound q params' =>
          rw [Expr.equal] at equal
          split at equal
          · rename_i key
            have single : List.Forall₂ Leaf.KeysAgree [(p, params)] [(q, params')] ↔
                Leaf.KeysAgree (p, params) (q, params') :=
              List.forall₂_cons.trans (and_iff_left .nil)
            exact ⟨.cons ⟨key, equal⟩ .nil,
              Value.agrees_bound_iff.trans ((and_iff_right key).trans single.symm)⟩
          · cases equal
      | _ => cases equal
  | all es ih =>
      cases f with
      | all fs =>
          obtain ⟨same, keys⟩ := leaves_of_operands equal fun e mem f => ih e mem
          exact ⟨same, HashKey.agrees_named_iff.trans ((and_iff_right rfl).trans keys)⟩
      | _ => cases equal
  | any es ih =>
      cases f with
      | any fs =>
          obtain ⟨same, keys⟩ := leaves_of_operands equal fun e mem f => ih e mem
          exact ⟨same, HashKey.agrees_named_iff.trans ((and_iff_right rfl).trans keys)⟩
      | _ => cases equal
  | negation e ih =>
      cases f with
      | negation f =>
          obtain ⟨same, keys⟩ := ih equal
          exact ⟨same, HashKey.agrees_named_iff.trans ((and_iff_right rfl).trans keys)⟩
      | _ => cases equal

end Expr

/-! ### Rules -/

theorem Rule.leaves_of_equal {r s : Rule} (equal : r.equal s = .ok true) :
    List.Forall₂ Leaf.Same r.expr.leaves s.expr.leaves ∧
      (r.hashKey.agrees s.hashKey = true ↔
        List.Forall₂ Leaf.KeysAgree r.expr.leaves s.expr.leaves) := by
  obtain ⟨path, e⟩ := r
  obtain ⟨path', f⟩ := s
  rw [Rule.equal] at equal
  split at equal
  · rename_i paths
    obtain ⟨same, keys⟩ := Expr.leaves_of_equal equal
    have label : path.hashKey.agrees path'.hashKey = true :=
      HashKey.agrees_label_iff.mpr paths
    have parts : List.Forall₂ (fun k l => k.agrees l = true) [e.hashKey] [f.hashKey] ↔
        e.hashKey.agrees f.hashKey = true :=
      List.forall₂_cons.trans (and_iff_left .nil)
    refine ⟨same, ?_⟩
    exact HashKey.agrees_sequence_iff.trans
      (List.forall₂_cons.trans ((and_iff_right label).trans (parts.trans keys)))
  · cases equal

theorem RuleSet.equal_eq_true_iff {rs ss : RuleSet} : rs.equal ss = .ok true ↔
    List.Forall₂ (fun r s => Rule.equal r s = .ok true) rs.rules ss.rules := by
  rw [RuleSet.equal, equalRules_eq, equalItems_eq_true_iff, List.forall₂_map_left_iff,
    List.forall₂_map_right_iff]
  rfl

theorem RuleSet.leaves_of_equal {rs ss : RuleSet} (equal : rs.equal ss = .ok true) :
    List.Forall₂ Leaf.Same rs.leaves ss.leaves ∧
      ((Value.ruleSet rs).keysAgree (.ruleSet ss) = true ↔
        List.Forall₂ Leaf.KeysAgree rs.leaves ss.leaves) := by
  obtain ⟨rules⟩ := rs
  obtain ⟨rules'⟩ := ss
  have each := RuleSet.equal_eq_true_iff.mp equal
  have keys : (Value.ruleSet ⟨rules⟩).keysAgree (.ruleSet ⟨rules'⟩) = true ↔
      List.Forall₂ (fun r s => r.hashKey.agrees s.hashKey = true) rules rules' := by
    refine (Value.keysAgree_ordered_iff (.ruleSet rules) (.ruleSet rules') rfl rfl).trans ?_
    change Value.PartsAgree _ _ ↔ _
    rw [Value.PartsAgree, List.forall₂_map_left_iff, List.forall₂_map_right_iff]
    rfl
  rw [keys]
  exact forall₂_flatMap (each.imp fun r s => Rule.leaves_of_equal)

/-! ### Equality and keys -/

/-- Two leaves whose parameters are all keys, or have no keys but are written alike. -/
def Leaf.KeysMatch (l m : Leaf) : Prop :=
  ((∀ v ∈ l.2, v.IsKey) ∧ ∀ w ∈ m.2, w.IsKey) ∨ Value.TextsAgree l.2 m.2

theorem Leaf.keysAgree_of_match {ls ms : List Leaf} (same : List.Forall₂ Leaf.Same ls ms)
    (keys : List.Forall₂ Leaf.KeysMatch ls ms) : List.Forall₂ Leaf.KeysAgree ls ms := by
  refine same.mp (fun l m same key => ?_) keys
  rcases key with ⟨left, right⟩ | texts
  · refine .inl (forall₂_imp_of_mem (equalItems_eq_true_iff.mp same.2) fun v inL w inM => ?_)
    exact Value.keysAgree_of_same (left v inL) (right w inM)
  · exact .inr texts

/-- Equal expressions, rules and rule sets have agreeing keys, if the parameters of their leaves are
keys, or have no keys and are written alike. -/
theorem keys_agree_of_equal (e f : Expr) (r s : Rule) (rs ss : RuleSet) :
    (e.equal f = .ok true → List.Forall₂ Leaf.KeysMatch e.leaves f.leaves →
      e.hashKey.agrees f.hashKey = true) ∧
    (r.equal s = .ok true → List.Forall₂ Leaf.KeysMatch r.expr.leaves s.expr.leaves →
      r.hashKey.agrees s.hashKey = true) ∧
    (rs.equal ss = .ok true → List.Forall₂ Leaf.KeysMatch rs.leaves ss.leaves →
      (Value.ruleSet rs).keysAgree (.ruleSet ss) = true) := by
  refine ⟨fun equal keys => ?_, fun equal keys => ?_, fun equal keys => ?_⟩
  · obtain ⟨same, agrees⟩ := Expr.leaves_of_equal equal
    exact agrees.mpr (Leaf.keysAgree_of_match same keys)
  · obtain ⟨same, agrees⟩ := Rule.leaves_of_equal equal
    exact agrees.mpr (Leaf.keysAgree_of_match same keys)
  · obtain ⟨same, agrees⟩ := RuleSet.leaves_of_equal equal
    exact agrees.mpr (Leaf.keysAgree_of_match same keys)

/-- The rule that the value at a path is equal to a parameter or one of some others. -/
def Rule.equalOrListed (param others : Value) : Rule :=
  ⟨.plain "a", .any [.bound (.builtin 0 .eql) [param], .bound (.builtin 1 .includedIn) [others]]⟩

/-- One as an integer and as a binary number, beside the same list. -/
theorem keys_agree_of_equal_numbers :
    let others := Value.list [.ofString "b"]
    let r := Rule.equalOrListed (.int 1) others
    let s := Rule.equalOrListed (.float 0 (.ofInt 1)) others
    r.expr.hashKey.agrees s.expr.hashKey = true ∧ r.hashKey.agrees s.hashKey = true ∧
      (Value.ruleSet ⟨[r]⟩).keysAgree (.ruleSet ⟨[s]⟩) = true := by
  intro others r s
  have key {v : Value} (atom : v.form = .atom) (key : v.hashKey = .ok (.plain v)) :
      ∀ w ∈ [v], w.IsKey := by
    rintro w (_ | ⟨_, ⟨⟩⟩)
    exact .atom atom key
  have keys : List.Forall₂ Leaf.KeysMatch r.expr.leaves s.expr.leaves :=
    .cons (.inl ⟨key rfl rfl, key rfl rfl⟩) (.cons (.inr ⟨⟨_, rfl⟩, ⟨_, rfl⟩, rfl⟩) .nil)
  obtain ⟨exprs, rules, sets⟩ := keys_agree_of_equal r.expr s.expr r s ⟨[r]⟩ ⟨[s]⟩
  exact ⟨exprs rfl keys, rules rfl keys, sets rfl keys⟩

/-- Equal expressions whose keys do not agree: the parameters have no keys, and are written in
another order or with a number of another kind. -/
theorem equal_with_differing_keys :
    let eql (param : Value) := Expr.bound (.builtin 0 .eql) [param]
    let ab := Value.object [("a", .int 1), ("b", .int 2)]
    let ba := Value.object [("b", .int 2), ("a", .int 1)]
    let integer := Value.list [.int 1]
    let float := Value.list [.float 0 (.ofInt 1)]
    ((eql ab).equal (eql ba) = .ok true ∧ (eql ab).hashKey.agrees (eql ba).hashKey = false) ∧
      (eql integer).equal (eql float) = .ok true ∧
      (eql integer).hashKey.agrees (eql float).hashKey = false :=
  ⟨⟨rfl, by decide +kernel⟩, rfl, by decide +kernel⟩

end RecordRules
