import RecordRules.Proofs.Evaluation.Agreement
import RecordRules.Proofs.Outcome
import RecordRules.Proofs.Registry.Lookup
import RecordRules.Proofs.Value.Entries

/-!
Records as dictionaries and as objects.

A tree of named children can be a dictionary of dictionaries, or a record with an attribute for each
child. Step by step both are read alike (`lookup_asDict`, `lookup_asRecord`), so a path leads to the
same in both unless it ends at an inner node, which is a dictionary in the one and a record in the
other (`walk_asDict`). Rules whose paths end elsewhere evaluate alike on both
(`evaluateBy_asDict`).
-/

namespace RecordRules

/-- What a record has apart from its attributes. -/
structure Record.Shell where
  tag : Nat
  label : String
  length : Option Length
  comparison : Option Fault

/-- A tree of named children, with any values at its leaves. The shell of an inner node matters when
the node becomes a record. -/
inductive Tree where
  | leaf (v : Value)
  | node (shell : Record.Shell) (children : List (String × Tree))

namespace Tree

/-! ### The two representations -/

mutual

/-- A tree as dictionaries with a key for each child. -/
def asDict : Tree → Value
  | .leaf v => v
  | .node _ children => .dict false (entries children)
termination_by structural t => t

def entries : List (String × Tree) → List (Value × Value)
  | [] => []
  | (name, t) :: rest => (.ofString name, t.asDict) :: entries rest
termination_by structural children => children

end

mutual

/-- A tree as records with an attribute for each child, and with no other attributes. -/
def asRecord : Tree → Value
  | .leaf v => v
  | .node shell children =>
    .record
      { tag := shell.tag
        label := shell.label
        attributes := attributes children
        slots := []
        properties := []
        failing := []
        hook := none
        length := shell.length
        comparison := shell.comparison }
termination_by structural t => t

def attributes : List (String × Tree) → List (String × Value)
  | [] => []
  | (name, t) :: rest => (name, t.asRecord) :: attributes rest
termination_by structural children => children

end

theorem isAbsent_asDict (t : Tree) : t.asDict.isAbsent = t.asRecord.isAbsent := by
  cases t with
  | leaf v => rfl
  | node shell children => rfl

/-! ### One step -/

theorem lookupKey_entries (children : List (String × Tree)) (key : String) :
    lookupKey (.ofString key) (entries children) = (children.lookup key).map asDict := by
  induction children with
  | nil => rfl
  | cons child rest ih =>
      obtain ⟨name, t⟩ := child
      have text : (Value.ofString name).text? = some name := rfl
      rw [entries, Value.ofString, lookupKey_cons, text, List.lookup_cons]
      by_cases here : name = key
      · subst here
        simp [Label.text]
      · have other : (key == name) = false := beq_eq_false_iff_ne.mpr (Ne.symm here)
        rw [if_neg (by simpa [Label.text] using here), other]
        exact ih

theorem lookup_attributes (children : List (String × Tree)) (key : String) :
    (attributes children).lookup key = (children.lookup key).map asRecord := by
  induction children with
  | nil => rfl
  | cons child rest ih =>
      obtain ⟨name, t⟩ := child
      rw [attributes, List.lookup_cons, List.lookup_cons]
      cases key == name with
      | true => rfl
      | false => exact ih

/-- A step from an inner node as a dictionary leads to a child as a dictionary. -/
theorem lookup_asDict (shell : Record.Shell) (children : List (String × Tree)) (key : String) :
    (node shell children).asDict.lookup key =
      .ok (((children.lookup key).map asDict).getD .absent) := by
  rw [← lookupKey_entries]
  rfl

/-- A step from an inner node as a record leads to a child as a record. -/
theorem lookup_asRecord (shell : Record.Shell) (children : List (String × Tree)) (key : String) :
    (node shell children).asRecord.lookup key =
      .ok (((children.lookup key).map asRecord).getD .absent) := by
  rw [← lookup_attributes]
  simp only [asRecord, Value.lookup, Record.read, List.lookup_nil]
  cases (attributes children).lookup key with
  | none => rfl
  | some v => rfl

/-! ### Paths -/

/-- A path leads to a leaf or below one, or to a child that is missing. It does not end at an inner
node. -/
inductive Exits : Tree → List String → Prop where
  | leaf (v : Value) (keys : List String) : Exits (.leaf v) keys
  | missing {shell : Record.Shell} {children : List (String × Tree)} {key : String}
      (none : children.lookup key = none) (keys : List String) :
      Exits (.node shell children) (key :: keys)
  | child {shell : Record.Shell} {children : List (String × Tree)} {key : String} {t : Tree}
      {keys : List String} (found : children.lookup key = some t) (exits : Exits t keys) :
      Exits (.node shell children) (key :: keys)

/-- A path that does not end at an inner node leads to the same in both representations. -/
theorem walk_asDict {t : Tree} {keys : List String} (exits : t.Exits keys) :
    t.asDict.walk keys = t.asRecord.walk keys := by
  induction exits with
  | leaf v keys => rfl
  | missing none keys =>
      simp only [Value.walk, lookup_asDict, lookup_asRecord, none]
      rfl
  | @child shell children key t keys found exits ih =>
      have dict : (node shell children).asDict.lookup key = .ok t.asDict := by
        rw [lookup_asDict, found]
        rfl
      have record : (node shell children).asRecord.lookup key = .ok t.asRecord := by
        rw [lookup_asRecord, found]
        rfl
      rw [Value.walk, Value.walk, dict, record, Except.ok_bind, Except.ok_bind, isAbsent_asDict, ih]
      split
      · rename_i absent
        cases exits with
        | leaf v keys => rfl
        | missing none keys => cases absent
        | child found exits => cases absent
      · rfl

end Tree

namespace Config

/-- **Dictionaries and objects are validated alike.** Take a tree of named children, once as
dictionaries and once as records with the children as attributes. If every path of a rule set leads
to a leaf or below one, or to something missing, then the two evaluate to the same result or end in
the same fault, and leave the same log, whatever the predicates and the settings are. -/
theorem evaluateBy_asDict (outcomes : Outcomes) (c : Config) {rs : RuleSet} {t : Tree}
    (exits : ∀ r ∈ rs.rules, t.Exits (c.segments r.path)) :
    (c.evaluateBy outcomes rs t.asDict).answer = (c.evaluateBy outcomes rs t.asRecord).answer ∧
      Run.logOf (c.evaluateBy outcomes rs t.asDict).events =
        Run.logOf (c.evaluateBy outcomes rs t.asRecord).events := by
  apply evaluateBy_congr
  intro r mem
  apply AgreeOn.of_resolve
  exact Tree.walk_asDict (exits r mem)

/-! ### A person -/

/-- A person with a home, as a tree. The name and the town are leaves. -/
def person : Tree :=
  .node ⟨1, "person", none, none⟩
    [("name", .leaf (.ofString "Ann")),
      ("home", .node ⟨2, "home", some (.given 1), none⟩ [("town", .leaf (.ofString "Rome"))])]

/-- Paths to a leaf, below a leaf, and to a part of the home that is missing. -/
def personRules : RuleSet :=
  ⟨[⟨.plain "home.town", .bound (Builtin.filled.predicate 0) []⟩,
    ⟨.plain "name.last", .bound (Builtin.filled.predicate 0) []⟩,
    ⟨.plain "home.zip", .bound (Builtin.filled.predicate 0) []⟩]⟩

/-- The last name and the zip code are missing, whichever way the person is represented. -/
theorem evaluate_personRules :
    (∀ r ∈ personRules.rules, person.Exits (Config.standard.segments r.path)) ∧
      (Config.standard.evaluate personRules person.asDict).answer =
        .ok ⟨.ofList
          [⟨.plain "name.last", .plain "filled?", .none, .none⟩,
            ⟨.plain "home.zip", .plain "filled?", .none, .none⟩]⟩ := by
  have exits : ∀ r ∈ personRules.rules, person.Exits (Config.standard.segments r.path) := by
    intro r mem
    simp only [personRules, List.mem_cons, List.not_mem_nil, or_false] at mem
    rcases mem with rfl | rfl | rfl
    · change person.Exits ["home", "town"]
      exact .child rfl (.child rfl (.leaf _ _))
    · change person.Exits ["name", "last"]
      exact .child rfl (.leaf _ _)
    · change person.Exits ["home", "zip"]
      exact .child rfl (.missing rfl _)
  refine ⟨exits, ?_⟩
  exact (evaluateBy_asDict Predicate.test Config.standard exits).1.trans rfl

end Config

end RecordRules
