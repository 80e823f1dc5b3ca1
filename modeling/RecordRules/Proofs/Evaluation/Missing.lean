import RecordRules.Proofs.Evaluation.Agreement
import RecordRules.Proofs.Predicate.Missing
import RecordRules.Proofs.Registry.Lookup
import RecordRules.Proofs.Value.Entries

/-!
What is missing from a record.

A record can lack a key or hold nothing under it. Along any path the two records lead to the same,
or both to something missing (`resolve_unset`): at the key itself one finds nothing and the other is
absent, and nothing has nothing below it. As a report shows what is absent as nothing, and no leaf
of the library tells the two apart, they evaluate alike (`evaluate_unset`).
-/

namespace RecordRules

/-- Two ends of a path that are the same or both missing. -/
inductive SameOrMissing : Except Fault Value → Except Fault Value → Prop where
  | same (found : Except Fault Value) : SameOrMissing found found
  | missing {v w : Value} (left : v.isMissing = true) (right : w.isMissing = true) :
      SameOrMissing (.ok v) (.ok w)

namespace Value

/-- Whatever is missing is reported as nothing. -/
theorem reported_missing {v : Value} (missing : v.isMissing = true) : v.reported = .none := by
  rcases isMissing_iff.mp missing with rfl | rfl <;> rfl

/-- A path that starts at nothing ends at nothing or at something absent. -/
theorem walk_none (keys : List String) :
    ∃ v : Value, Value.none.walk keys = .ok v ∧ v.isMissing = true := by
  cases keys with
  | nil => exact ⟨.none, rfl, rfl⟩
  | cons key keys => exact ⟨.absent, rfl, rfl⟩

theorem walk_dict (readOnly : Bool) (entries : List (Value × Value)) (key : String)
    (keys : List String) :
    (Value.dict readOnly entries).walk (key :: keys) =
      let next := (lookupKey (.ofString key) entries).getD .absent
      if next.isAbsent then .ok next else next.walk keys :=
  rfl

/-- A path with at least one step leads alike from a dictionary with nothing under a key and from
the dictionary without the key. -/
theorem walk_unset (readOnly : Bool) (entries : List (Value × Value)) (k : Label)
    {keys : List String} (steps : keys ≠ []) :
    SameOrMissing ((Value.dict readOnly (insertEntry (.text k) .none entries)).walk keys)
      ((Value.dict readOnly (eraseEntry (.text k) entries)).walk keys) := by
  obtain ⟨key, keys, rfl⟩ := List.exists_cons_of_ne_nil steps
  rw [walk_dict, walk_dict, ofString, lookupKey_insertEntry, lookupKey_eraseEntry]
  by_cases here : (Label.plain key).text = k.text
  · rw [if_pos here, if_pos here]
    obtain ⟨v, found, missing⟩ := walk_none keys
    change SameOrMissing (Value.none.walk keys) (.ok .absent)
    rw [found]
    exact .missing missing rfl
  · rw [if_neg here, if_neg here]
    exact .same _

end Value

theorem Text.splitParts_ne_nil (sep : List Char) (skip : Nat) (part cs : List Char) :
    splitParts sep skip part cs ≠ [] := by
  induction cs generalizing skip part with
  | nil => cases skip <;> exact List.cons_ne_nil _ _
  | cons c cs ih =>
      cases skip with
      | succ skip => exact ih skip part
      | zero =>
          rw [splitParts]
          split
          · exact List.cons_ne_nil _ _
          · exact ih 0 (c :: part)

namespace Config

/-- Every path has at least one step. -/
theorem segments_ne_nil (c : Config) (path : Label) : c.segments path ≠ [] := by
  unfold segments
  split
  · exact mt List.map_eq_nil_iff.mp (Text.splitParts_ne_nil _ _ _ _)
  · exact List.cons_ne_nil _ _

theorem resolve_unset (c : Config) (readOnly : Bool) (entries : List (Value × Value))
    (k path : Label) :
    SameOrMissing (c.resolve (.dict readOnly (insertEntry (.text k) .none entries)) path)
      (c.resolve (.dict readOnly (eraseEntry (.text k) entries)) path) :=
  Value.walk_unset readOnly entries k (c.segments_ne_nil path)

/-- Records agree on a rule of the library if its path leads to the same in both, or to something
missing in both. -/
theorem AgreeOn.of_sameOrMissing {c : Config} {record record' : Value} {r : Rule}
    (library : ∀ leaf ∈ r.expr.leaves, leaf.OfLibrary)
    (ends : SameOrMissing (c.resolve record r.path) (c.resolve record' r.path)) :
    AgreeOn Predicate.test c record record' r := by
  generalize left : c.resolve record r.path = x at ends
  generalize right : c.resolve record' r.path = y at ends
  cases ends with
  | same => exact .of_resolve (left.trans right.symm)
  | missing v_missing w_missing =>
      have shown := (Value.reported_missing v_missing).trans (Value.reported_missing w_missing).symm
      exact .of_leaves left right shown
        fun leaf mem => (library leaf mem).test_missing v_missing w_missing

/-- **Nothing under a key is the same as no key.** With the predicates of the library, a dictionary
that holds nothing under a key and the one without the key have equal results or end in the same
fault, and leave the same log, whatever the settings are and wherever the paths of the rules lead.
On something missing no predicate of the library faults, and those that accept it are `none?`,
`empty?`, and `eql?` when it asks for nothing. -/
theorem evaluate_unset (c : Config) {rs : RuleSet} (library : rs.OfLibrary) :
    (∀ readOnly entries (k : Label),
      let unset := c.evaluate rs (.dict readOnly (insertEntry (.text k) .none entries))
      let erased := c.evaluate rs (.dict readOnly (eraseEntry (.text k) entries))
      unset.answer = erased.answer ∧ Run.logOf unset.events = Run.logOf erased.events) ∧
    ∀ (tag : Nat) (b : Builtin) params, Leaf.OfLibrary (.builtin tag b, params) →
      ∀ v : Value, v.isMissing = true → ∃ answer : Bool,
        (Predicate.builtin tag b).test v params = .ok answer ∧
        (answer = true ↔ b = .none ∨ b = .empty ∨ (b = .eql ∧ params = [.none])) := by
  constructor
  · intro readOnly entries k
    exact evaluateBy_congr fun r mem =>
      .of_sameOrMissing (library r mem) (c.resolve_unset readOnly entries k r.path)
  · rintro tag b params ⟨-, count, -⟩ v missing
    exact ⟨_, Builtin.test_missing count missing, Builtin.acceptsMissing_iff⟩

/-- A name is text or nothing, and it has no first part that is blank. -/
def nameRules : RuleSet :=
  ⟨[⟨.plain "name", .any [.bound (Builtin.type.predicate 0) [.type .str],
      .bound (Builtin.eql.predicate 0) [.none]]⟩,
    ⟨.plain "name.first", .negation (.bound (Builtin.empty.predicate 0) [])⟩]⟩

/-- A record without a name fails for its first part, like one in which the name is nothing, and an
absent name is accepted where nothing is asked for. -/
theorem evaluate_nameRules :
    nameRules.OfLibrary ∧
      (Config.standard.evaluate nameRules (.object [("age", .int 3), ("name", .none)])).answer =
        (Config.standard.evaluate nameRules (.object [("age", .int 3)])).answer ∧
      Run.logOf (Config.standard.evaluate nameRules (.object [("age", .int 3)])).events =
        [.summary 2 1] ∧
      (Builtin.eql.predicate 0).test .absent [.none] = .ok true := by
  have leaf (b : Builtin) {params : List Value} (count : params.length = b.arity)
      (check : b.check params = .ok ()) : Leaf.OfLibrary (b.predicate 0, params) :=
    .intro _ count check
  have library : nameRules.OfLibrary := by
    refine List.forall_mem_cons.mpr ⟨List.forall_mem_cons.mpr ⟨leaf .type rfl rfl, ?_⟩, ?_⟩
    · exact List.forall_mem_singleton.mpr (leaf .eql rfl rfl)
    · exact List.forall_mem_singleton.mpr (List.forall_mem_singleton.mpr (leaf .empty rfl rfl))
  obtain ⟨alike, missing⟩ := evaluate_unset Config.standard library
  have same := alike false
    [(.ofString "age", .int 3), (.ofString "name", .ofString "Ann")] (.plain "name")
  obtain ⟨answer, tested, accepted⟩ := missing _ .eql [.none] (leaf .eql rfl rfl) .absent rfl
  obtain rfl : answer = true := accepted.mpr (.inr (.inr ⟨rfl, rfl⟩))
  exact ⟨library, same.1, rfl, tested⟩

end Config

end RecordRules
