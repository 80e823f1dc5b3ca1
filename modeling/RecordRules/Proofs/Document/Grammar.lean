import RecordRules.Proofs.Document.Schema
import RecordRules.Proofs.Registry.Lookup

/-!
The grammar of rule documents.

With a new registry, `RuleSet.ofDocument` is a translation: a document made of JSON values is
accepted exactly when it is in the grammar that `Document.Translates` describes, and the rule set
that comes back is the one the grammar assigns. The grammar has two layers. `ReadsDocument` is about
fields: which objects are nodes, and of which parts. `RuleNode.Denotes` is about what the nodes say:
paths, names with parameters, and groups with their operands.
-/

namespace RecordRules

open Document

/-- What the predicates of the library bind: `type?` the class that its only parameter stands for,
any other as many parameters as it takes, which pass its check. -/
inductive Builtin.Binds (tag : Nat) : Binding where
  | type {v c} (stands : StandsFor v c) :
      Binds tag Builtin.type.text [v] (.bound (Builtin.type.predicate tag) [c])
  | other {b : Builtin} {params} (other : b ≠ .type) (count : params.length = b.arity)
      (check : b.check params = .ok ()) : Binds tag b.text params (.bound (b.predicate tag) params)

/-- A new registry binds what the predicates of the library bind. -/
theorem Registry.binds_standard (tag : Nat) :
    (Registry.standard tag).Binds Predicate.check = Builtin.Binds tag := by
  funext name given e
  refine propext ⟨?_, ?_⟩
  · rintro ⟨resolves, found, takes⟩
    obtain ⟨b, rfl, rfl⟩ := Registry.get?_standard.mp found
    cases resolves with
    | asGiven plain =>
        by_cases isType : b = .type
        · subst isType
          obtain rfl := plain rfl
          exact nomatch takes.count
        · exact .other isType takes.count takes.check
    | type isType stands =>
        obtain rfl := Builtin.eq_of_text_eq isType
        obtain rfl := List.length_eq_zero_iff.mp (Nat.succ.inj takes.count)
        exact .type stands
  · rintro (stands | ⟨other, count, check⟩)
    · refine .bound (.type rfl stands) (Registry.get?_standard.mpr ⟨.type, rfl, rfl⟩) ⟨rfl, ?_⟩
      exact Builtin.check_type_of_isClass stands.isClass
    · refine .bound (.asGiven fun same => ?_) (Registry.get?_standard.mpr ⟨_, rfl, rfl⟩)
        ⟨count, check⟩
      exact absurd (Builtin.eq_of_text_eq same) other

/-- The rule set that a document is translated into, with the predicates of the library: the
document holds rule nodes, and each of them denotes the rule in its place. -/
def Document.Translates (tag : Nat) (document : Value) (rs : RuleSet) : Prop :=
  ∃ nodes, ReadsDocument document nodes ∧
    List.Forall₂ (RuleNode.Denotes (Builtin.Binds tag)) nodes rs.rules

namespace RuleSet

/-- **Documents are translated by their grammar.** A document made of JSON values makes a rule set
exactly when the grammar translates it, and into that rule set. -/
theorem ofDocument_ok_iff_translates {document : Value} (json : document.IsJson) (tag : Nat)
    (rs : RuleSet) :
    ofDocument (.standard tag) document = .ok rs ↔ Document.Translates tag document rs := by
  rw [ofDocument_ok_iff, ofDocumentBy_ok_iff, Registry.binds_standard]
  refine exists_congr fun nodes => and_congr_left fun _ => ?_
  exact ⟨reads_of_rulesOf json, rulesOf_of_reads⟩

/-- A document with a word for a class and a group of one operand. -/
def ageDocument : Value :=
  .object [("rules", .list [.object [("attribute", .ofString "age"), ("op", .ofString "and"),
    ("operands", .list [.object [("predicate", .ofString "type?"),
      ("params", .list [.ofString "Integer"])]])]])]

/-- Neither the word nor the group is in the rule set that the document is translated into. -/
theorem ofDocument_ageDocument :
    ofDocument (.standard 0) ageDocument =
      .ok ⟨[⟨.plain "age", .bound (Builtin.type.predicate 0) [.type .int]⟩]⟩ := by
  have json : ageDocument.IsJson := by
    simp [ageDocument, Value.isJson_object_iff, Value.isJson_list_iff, Value.IsJson.text]
  refine (ofDocument_ok_iff_translates json 0 _).mpr
    ⟨[⟨"age", .group .and [.named "type?" [.ofString "Integer"]]⟩], ?_, ?_⟩
  · refine .object (by simp [Role.keys]) rfl (.cons (.object rfl ?_) .nil)
    refine .group (by simp [Role.keys]) rfl rfl rfl rfl (.cons (.object ?_) .nil)
    exact .named (by simp [Role.keys]) rfl rfl rfl rfl
  · refine .cons (.rule ⟨by decide, by decide⟩ (.group (.cons ?_ .nil) (.single nofun))) .nil
    exact .named (.type (.word (by decide +kernel)))

end RuleSet

end RecordRules
