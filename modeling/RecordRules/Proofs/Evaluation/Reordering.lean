import RecordRules.Proofs.Evaluation.Log
import RecordRules.Proofs.Registry.Lookup

/-!
Rule sets in another order.

A rule set can be reordered as long as the rules for each path stay in their order
(`RuleSet.IsReordering`). Whether an evaluation ends in a fault depends on which rules there are and
not on their order (`answer_error_iff`), and the errors for an attribute come from the rules for it
alone (`forAttribute_part`). So rules for different paths do not interfere
(`evaluateBy_reordering`), although another rule may be the first to break and the attributes of the
result may come in another order.
-/

namespace RecordRules

/-- The same rules in an order that keeps those for one path in theirs. -/
structure RuleSet.IsReordering (rs ss : RuleSet) : Prop where
  perm : rs.rules.Perm ss.rules
  stable : ∀ a, rs.forPath a = ss.forPath a

namespace Config

section

variable {outcomes : Outcomes} {c : Config} {record : Value}

/-- An evaluation has a result exactly when no rule breaks, and the result is made of the errors of
the failed rules. -/
theorem answer_ok_iff {rs : RuleSet} {result : Result} :
    (c.evaluateBy outcomes rs record).answer = .ok result ↔
      (∀ r ∈ rs.rules, (c.verdict outcomes record r).fault? = none) ∧
        result = ⟨.ofList (c.failures outcomes record rs.rules)⟩ := by
  constructor
  · intro answered
    rcases unbroken_or_broken outcomes c record rs.rules with unbroken |
      ⟨before, r, after, f, split, unbroken, broken⟩
    · rw [evaluateBy_unbroken outcomes c record unbroken] at answered
      cases answered
      exact ⟨unbroken, rfl⟩
    · rw [evaluateBy_broken outcomes c record split unbroken broken] at answered
      cases answered
  · rintro ⟨unbroken, rfl⟩
    rw [evaluateBy_unbroken outcomes c record unbroken]

/-- An evaluation ends in a fault exactly when some rule breaks. -/
theorem answer_error_iff {rs : RuleSet} :
    (∃ f, (c.evaluateBy outcomes rs record).answer = .error f) ↔
      ∃ r ∈ rs.rules, (c.verdict outcomes record r).fault? ≠ none := by
  constructor
  · rintro ⟨f, failed⟩
    by_contra all
    push Not at all
    have answered := answer_ok_iff.mpr ⟨all, rfl⟩
    rw [answered] at failed
    cases failed
  · rintro ⟨r, mem, breaks⟩
    cases answer : (c.evaluateBy outcomes rs record).answer with
    | error f => exact ⟨f, rfl⟩
    | ok result => exact absurd ((answer_ok_iff.mp answer).1 r mem) breaks

/-- The errors for an attribute are those of the failed rules for it. -/
theorem forAttribute_of_answer {rs : RuleSet} {result : Result}
    (answered : (c.evaluateBy outcomes rs record).answer = .ok result) (a : String) :
    result.errors.forAttribute a = c.failures outcomes record (rs.forPath a) := by
  obtain ⟨-, rfl⟩ := answer_ok_iff.mp answered
  rw [ErrorSet.forAttribute_ofList, errorsFor_failures]
  rfl

/-- An evaluation of the rules for one path alone has the errors for that attribute. -/
theorem forAttribute_part {rs : RuleSet} {result : Result}
    (answered : (c.evaluateBy outcomes rs record).answer = .ok result) (a : String) :
    ∃ part, (c.evaluateBy outcomes ⟨rs.forPath a⟩ record).answer = .ok part ∧
      part.errors.forAttribute a = result.errors.forAttribute a := by
  obtain ⟨unbroken, -⟩ := answer_ok_iff.mp answered
  have within : ∀ r ∈ rs.forPath a, (c.verdict outcomes record r).fault? = none := by
    intro r mem
    exact unbroken r (List.mem_filter.mp mem).1
  have answered' : (c.evaluateBy outcomes ⟨rs.forPath a⟩ record).answer = .ok _ :=
    answer_ok_iff.mpr ⟨within, rfl⟩
  have twice : RuleSet.forPath ⟨rs.forPath a⟩ a = rs.forPath a := by
    simp [RuleSet.forPath]
  refine ⟨_, answered', ?_⟩
  rw [forAttribute_of_answer answered', forAttribute_of_answer answered, twice]

end

/-- **Rules for different paths do not interfere.** Reorder a rule set and keep the rules for each
path in their order. Then the one ends in a fault exactly when the other does, and when they come to
results, these hold the same errors for every attribute in the same order, agree on success and
count the same number of errors. Moreover, the errors for an attribute are those of an evaluation of
the rules for it alone. -/
theorem evaluateBy_reordering (outcomes : Outcomes) (c : Config) (record : Value)
    {rs ss : RuleSet} (reordered : rs.IsReordering ss) :
    ((∃ f, (c.evaluateBy outcomes rs record).answer = .error f) ↔
      ∃ f, (c.evaluateBy outcomes ss record).answer = .error f) ∧
    (∀ x y, (c.evaluateBy outcomes rs record).answer = .ok x →
      (c.evaluateBy outcomes ss record).answer = .ok y →
      (∀ a, x.errors.forAttribute a = y.errors.forAttribute a) ∧ x.success = y.success ∧
        x.errors.length = y.errors.length) ∧
    ∀ x, (c.evaluateBy outcomes rs record).answer = .ok x → ∀ a,
      ∃ only part, RuleSet.make ((rs.forPath a).map .rule) = .ok only ∧
        (c.evaluateBy outcomes only record).answer = .ok part ∧
        part.errors.forAttribute a = x.errors.forAttribute a := by
  refine ⟨?_, ?_, ?_⟩
  · rw [answer_error_iff, answer_error_iff]
    simp only [reordered.perm.mem_iff]
  · intro x y answered answered'
    have failures : (c.failures outcomes record rs.rules).Perm
        (c.failures outcomes record ss.rules) :=
      reordered.perm.filterMap _
    refine ⟨?_, ?_, ?_⟩
    · intro a
      rw [forAttribute_of_answer answered, forAttribute_of_answer answered', reordered.stable a]
    all_goals
      obtain ⟨-, rfl⟩ := answer_ok_iff.mp answered
      obtain ⟨-, rfl⟩ := answer_ok_iff.mp answered'
    · rw [Result.success, Result.success, ErrorSet.isEmpty_ofList, ErrorSet.isEmpty_ofList,
        failures.isEmpty_eq]
    · rw [ErrorSet.length_ofList, ErrorSet.length_ofList, failures.length_eq]
  · intro x answered a
    obtain ⟨part, answered', same⟩ := forAttribute_part answered a
    exact ⟨_, part, RuleSet.make_map_rule _, answered', same⟩

/-! ### A rule moved to the front -/

/-- A rule that asks for something under a path. -/
def fills (path : String) : Rule := ⟨.plain path, .bound (Builtin.filled.predicate 0) []⟩

/-- A rule that asks for an integer under a path. -/
def counts (path : String) : Rule := ⟨.plain path, .bound (Builtin.type.predicate 0) [.type .int]⟩

/-- A rule for one path between two for another. -/
def mixedRules : RuleSet := ⟨[fills "name", fills "mail", counts "name"]⟩

/-- The same rules with the one in the middle at the front. -/
def sortedRules : RuleSet := ⟨[fills "mail", fills "name", counts "name"]⟩

/-- All rules fail in both orders, and the errors for a name stay in their order, but the attributes
come in another one. -/
theorem evaluate_sortedRules :
    mixedRules.IsReordering sortedRules ∧
      ∃ x y, (Config.standard.evaluate mixedRules (.object [])).answer = .ok x ∧
        (Config.standard.evaluate sortedRules (.object [])).answer = .ok y ∧
        x.errors.forAttribute "name" = y.errors.forAttribute "name" ∧
        x.errors.length = y.errors.length ∧ y.errors.length = 3 ∧
        x.errors.attributes = [.plain "name", .plain "mail"] ∧
        y.errors.attributes = [.plain "mail", .plain "name"] := by
  have reordered : mixedRules.IsReordering sortedRules := by
    refine ⟨.swap _ _ _, ?_⟩
    intro a
    by_cases name : "name" = a
    · subst name
      rfl
    · simp [RuleSet.forPath, mixedRules, sortedRules, fills, counts, Label.text, List.filter_cons,
        name]
  obtain ⟨-, same, -⟩ :=
    evaluateBy_reordering Predicate.test Config.standard (.object []) reordered
  obtain ⟨errors, -, length⟩ := same _ _ rfl rfl
  exact ⟨reordered, _, _, rfl, rfl, errors "name", length, rfl, rfl, rfl⟩

end Config

end RecordRules
