import RecordRules.Proofs.Evaluation.Interchange
import RecordRules.Proofs.Report.Merging
import RecordRules.Proofs.Value.Entries
import RecordRules.Proofs.Value.Sameness
import RecordRules.Proofs.Workspace.Building

/-!
Error sets as a workspace sees them.

An error set is made, asked, merged and compared by commands. Those for error sets only read: they
come to the same answer in every workspace, and change nothing but the variable for it
(`Command.Gives`). What they answer about the set of a list of errors is what the list says when it
is sorted by attributes, stably (`ErrorSet.Sorts`). Equal sets and equal results have agreeing keys,
since a key tells attributes and numbers of errors alone.
-/

namespace RecordRules

/-! ### Commands that only read -/

/-- A command comes to the same answer in every workspace, and changes nothing but the variable for
its answer. -/
def Command.Gives (c : Command) (v : Value) : Prop :=
  ∀ (w : Workspace) (target : Option String),
    w.run c target = (.ok v, target.elim w fun name => w.assign name v)

namespace Command

variable {c : Command} {v : Value}

theorem gives_of_action (answers : c.action = pure v) : c.Gives v := by
  intro w target
  unfold Workspace.run
  rw [answers]
  cases target <;> rfl

/-- What only reads leaves every other variable as it was. -/
theorem Gives.lookup_other (gives : c.Gives v) {name : String} {target : Option String}
    (differ : target ≠ some name) (w : Workspace) :
    (w.run c target).2.bindings.lookup name = w.bindings.lookup name := by
  rw [gives]
  cases target with
  | none => rfl
  | some other =>
      have apart : name ≠ other := fun same => differ (congrArg some same.symm)
      simp [Workspace.assign, List.lookup_cons, beq_false_of_ne apart,
        lookup_filter_ne apart]

/-- Comparing two values gives whether they are equal. -/
theorem gives_eq_iff {a b : Value} {answer : Bool} :
    (binary "eq" a b).Gives (.bool answer) ↔ a.equal b = .ok answer := by
  have action : (binary "eq" a b).action = (do
      return .bool (← Action.ofExcept (a.equal b)) : Action Value) := rfl
  constructor
  · intro gives
    have ran := congrArg Prod.fst (gives .empty none)
    rw [Workspace.answer_run, action] at ran
    cases equal : a.equal b with
    | error f => rw [equal] at ran; cases ran
    | ok other => rw [equal] at ran; cases ran; rfl
  · intro equal
    refine gives_of_action ?_
    rw [action, equal]
    rfl

/-- Comparing the hashes of two values gives whether their keys agree, if both have keys. -/
theorem gives_hash_eq {a b : Value} (agree : a.keysAgree b = true) :
    (binary "hash_eq" a b).Gives (.bool true) := by
  obtain ⟨k, l, left, right, agree⟩ := Value.keysAgree_iff.mp agree
  have action : (binary "hash_eq" a b).action = (do
      let k ← Action.ofExcept a.hashKey
      let l ← Action.ofExcept b.hashKey
      return .bool (k.agrees l) : Action Value) := rfl
  refine gives_of_action ?_
  rw [action, left, right, ← agree]
  rfl

end Command

/-! ### The errors of a set -/

namespace ErrorSet

theorem toList_insertInto_perm (e : Error) (gs : List (Label × List Error)) :
    ((insertInto e gs).flatMap (·.2)).Perm (gs.flatMap (·.2) ++ [e]) := by
  induction gs with
  | nil => exact .refl _
  | cons g gs ih =>
      obtain ⟨path, es⟩ := g
      rw [insertInto]
      split
      · -- the error stands in front of the groups that follow
        simp only [List.flatMap_cons, List.append_assoc]
        exact List.perm_append_comm.append_left es
      · simp only [List.flatMap_cons, List.append_assoc]
        exact ih.append_left es

/-- No error of a list is lost or doubled in its set. -/
theorem toList_ofList_perm (errors : List Error) : (ofList errors).toList.Perm errors := by
  induction errors using List.reverseRecOn with
  | nil => exact .refl _
  | append_singleton errors e ih =>
      rw [ofList_append_singleton]
      exact (toList_insertInto_perm e _).trans (ih.append_right [e])

/-- The errors of a set stand attribute by attribute. -/
theorem toList_ofList (errors : List Error) :
    (ofList errors).toList = (attributesOf errors).flatMap fun a => errorsFor a errors := by
  have groups := congrArg (List.flatMap Prod.snd) (groups_ofList errors)
  rw [List.flatMap_map, List.flatMap_map] at groups
  exact groups

end ErrorSet

namespace Value

theorem kind_eq_of_same {v w : Value} (same : v.same w = .ok true) : v.form.kind = w.form.kind := by
  unfold Value.same sameOr at same
  split at same
  · exact kind_eq_of_identical ‹_›
  · exact kind_eq_of_equal same

/-- Only text is found under a text key. -/
theorem sameKey_text_right {v : Value} {key : Label} :
    v.sameKey (.text key) = true ↔ v.text? = some key.text := by
  constructor
  · intro found
    have same := same_of_sameKey found
    have atom : v.form = .atom := Form.eq_atom_of_kind (kind_eq_of_same same)
    have plain := same_iff_sameAtom.mpr (sameAtom_of_same atom same).symm
    cases v with
    | text label => exact congrArg some (eq_of_beq (Except.ok.inj plain)).symm
    | _ => cases plain
  · intro text
    cases v with
    | text label => exact sameKey_text_iff.mpr text.symm
    | _ => cases text

/-- An error set holds the attributes of its errors, and nothing else that has a key. -/
theorem contains_errorSet {es : ErrorSet} {v : Value} {k : HashKey} (key : v.hashKey = .ok k) :
    (Value.errorSet es).contains v =
      .ok (decide (∃ a ∈ es.attributes.map Label.text, v.text? = some a)) := by
  have found : (es.groups.any fun g => v.sameKey (.text g.1)) =
      decide (∃ a ∈ es.attributes.map Label.text, v.text? = some a) := by
    rw [Bool.eq_iff_iff, List.any_eq_true, decide_eq_true_eq, ErrorSet.attributes, List.map_map]
    simp only [sameKey_text_right, List.mem_map, Function.comp_apply, exists_exists_and_eq_and]
  rw [contains, key, found]
  rfl

end Value

namespace ErrorSet

/-- A set answers as a list of errors does when it is sorted by attributes: the attributes stand in
the order of their first errors, and the errors of each in the order of the list. -/
structure Sorts (errors : List Error) (es : ErrorSet) : Prop where
  /-- Iterating yields a list of errors. -/
  iterates : (Command.unary "iter" (.errorSet es)).Gives (.list (es.toList.map .error))
  /-- No error is lost or doubled. -/
  perm : es.toList.Perm errors
  /-- The errors stand attribute by attribute. -/
  sorted : es.toList = (attributesOf errors).flatMap fun a => errorsFor a errors
  length : (Command.unary "len" (.errorSet es)).Gives (.int errors.length)
  isEmpty : (Command.call (.errorSet es) "is_empty" ⟨[], []⟩).Gives (.bool errors.isEmpty)
  attributes : ∃ labels : List Label, labels.map Label.text = attributesOf errors ∧
    (Command.part (.errorSet es) "attributes").Gives (.tuple (labels.map .text))
  forAttribute : ∀ a : Label,
    (Command.call (.errorSet es) "for_attribute" ⟨[.text a], []⟩).Gives
      (.list ((errorsFor a.text errors).map .error))
  item : ∀ a : Label, (Command.binary "item" (.errorSet es) (.text a)).Gives
    (.list ((errorsFor a.text errors).map .error))
  /-- What has a key is found when it is the text of an attribute. -/
  contains : ∀ (v : Value) (k : HashKey), v.hashKey = .ok k →
    (Command.binary "contains" (.errorSet es) v).Gives
      (.bool (decide (∃ a ∈ attributesOf errors, v.text? = some a)))

theorem items?_errorSet (es : ErrorSet) :
    (Value.errorSet es).items? = some (es.toList.map .error) := by
  rw [Value.items?, toList, List.map_flatMap]

/-- The set of a list of errors sorts the list. -/
theorem sorts_ofList (errors : List Error) : Sorts errors (ofList errors) where
  iterates := by
    refine Command.gives_of_action ?_
    have action : (Command.unary "iter" (.errorSet (ofList errors))).action = (do
        return .list (← Action.itemsOf (.errorSet (ofList errors))) : Action Value) := rfl
    rw [action, Action.itemsOf, items?_errorSet]
    rfl
  perm := toList_ofList_perm errors
  sorted := toList_ofList errors
  length := length_ofList errors ▸ Command.gives_of_action rfl
  isEmpty := isEmpty_ofList errors ▸ Command.gives_of_action rfl
  attributes := ⟨_, attributes_ofList errors, Command.gives_of_action rfl⟩
  forAttribute a := forAttribute_ofList errors a.text ▸ Command.gives_of_action rfl
  item a := forAttribute_ofList errors a.text ▸ Command.gives_of_action rfl
  contains v k key := by
    have action : (Command.binary "contains" (.errorSet (ofList errors)) v).action = (do
        return .bool (← Action.ofExcept ((Value.errorSet (ofList errors)).contains v)) :
          Action Value) := rfl
    refine Command.gives_of_action ?_
    rw [action, Value.contains_errorSet key, attributes_ofList]
    rfl

/-! ### Making and merging -/

theorem errorsOf_map_error (errors : List Error) :
    Action.errorsOf (errors.map .error) = pure errors := by
  induction errors with
  | nil => rfl
  | cons e errors ih =>
      rw [List.map_cons, Action.errorsOf, ih]
      rfl

/-- Whatever yields errors can be made into a set. -/
theorem gives_make {v : Value} {errors : List Error} (items : v.items? = some (errors.map .error)) :
    (Command.make "ErrorSet" ⟨[v], []⟩).Gives (.errorSet (ofList errors)) := by
  have action : (Command.make "ErrorSet" ⟨[v], []⟩).action = (do
      let errors ← Action.errorsOf (← Action.itemsOf v)
      return .errorSet (.ofList errors) : Action Value) := rfl
  refine Command.gives_of_action ?_
  rw [action, Action.itemsOf, items]
  change (do
    let errors ← Action.errorsOf (errors.map .error)
    return .errorSet (.ofList errors) : Action Value) = _
  rw [errorsOf_map_error]
  rfl

theorem gives_merge (xs ys : List Error) :
    (Command.call (.errorSet (ofList xs)) "merge" ⟨[.errorSet (ofList ys)], []⟩).Gives
      (.errorSet (ofList (xs ++ ys))) :=
  merge_ofList xs ys ▸ Command.gives_of_action rfl

/-! ### Equality and keys -/

/-- An error set is equal to itself, whatever well-keyed values its errors hold. -/
theorem equal_self (errors : List KeyedError) :
    (ofList (errors.map KeyedError.toError)).equal (ofList (errors.map KeyedError.toError)) =
      .ok true := by
  have recorded : ∀ e ∈ (ofList (errors.map KeyedError.toError)).toList,
      ∃ keyed : KeyedError, keyed.toError = e := by
    intro e mem
    obtain ⟨keyed, -, same⟩ := List.mem_map.mp ((toList_ofList_perm _).mem_iff.mp mem)
    exact ⟨keyed, same⟩
  generalize ofList (errors.map KeyedError.toError) = es at recorded ⊢
  obtain ⟨gs⟩ := es
  refine (if_pos rfl).trans (equalGroups_of_same ?_)
  refine List.forall₂_same.mpr fun g inGs => ⟨rfl, List.forall₂_same.mpr fun e inGroup => ?_⟩
  obtain ⟨keyed, rfl⟩ := recorded e (List.mem_flatMap.mpr ⟨g, inGs, inGroup⟩)
  exact keyed.equal_self

theorem keysAgree_of_equal {a b : ErrorSet} (equal : a.equal b = .ok true) :
    (Value.errorSet a).keysAgree (.errorSet b) = true := by
  obtain ⟨gs⟩ := a
  obtain ⟨hs⟩ := b
  exact Value.keysAgree_of_same (.report rfl rfl) (.report rfl rfl) equal

end ErrorSet

theorem Result.keysAgree_of_equal {a b : Result} (equal : Result.equal a b = .ok true) :
    (Value.result a).keysAgree (.result b) = true := by
  obtain ⟨⟨gs⟩⟩ := a
  obtain ⟨⟨hs⟩⟩ := b
  exact Value.keysAgree_of_same (.report rfl rfl) (.report rfl rfl) equal

/-! ### Error sets -/

namespace ErrorSet

/-- The command that merges the sets of two lists of errors. -/
def mergeCommand (xs ys : List Error) : Command :=
  .call (.errorSet (ofList xs)) "merge" ⟨[.errorSet (ofList ys)], []⟩

/-- **Error sets sort errors by attributes, stably.** The set of a list answers as the sorted list
does. Whatever yields the errors makes it, and the errors that it yields make it again. Merging two
sets gives the set of both lists in a row and leaves every variable as it was but the one for the
answer. These sets also compare as equal, if their errors hold keyed values; and sets or results
that compare as equal have hashes that do, whatever their errors hold. -/
theorem stable_grouping (xs ys : List Error) :
    Sorts xs (ofList xs) ∧
    (∀ v : Value, v.items? = some (xs.map .error) →
      (Command.make "ErrorSet" ⟨[v], []⟩).Gives (.errorSet (ofList xs))) ∧
    (Command.make "ErrorSet" ⟨[.list ((ofList xs).toList.map .error)], []⟩).Gives
      (.errorSet (ofList xs)) ∧
    (mergeCommand xs ys).Gives (.errorSet (ofList (xs ++ ys))) ∧
    (∀ (w : Workspace) (target : Option String) (name : String), target ≠ some name →
      (w.run (mergeCommand xs ys) target).2.bindings.lookup name = w.bindings.lookup name) ∧
    (∀ vs ws : List KeyedError,
      let es := ofList (vs.map KeyedError.toError)
      let fs := ofList (ws.map KeyedError.toError)
      (Command.binary "eq" (.errorSet (ofList es.toList)) (.errorSet es)).Gives (.bool true) ∧
        (Command.binary "eq" (.errorSet (es.merge fs))
          (.errorSet (ofList ((vs ++ ws).map KeyedError.toError)))).Gives (.bool true)) ∧
    (∀ a b : ErrorSet, (Command.binary "eq" (.errorSet a) (.errorSet b)).Gives (.bool true) →
      (Command.binary "hash_eq" (.errorSet a) (.errorSet b)).Gives (.bool true)) ∧
    ∀ a b : Result, (Command.binary "eq" (.result a) (.result b)).Gives (.bool true) →
      (Command.binary "hash_eq" (.result a) (.result b)).Gives (.bool true) := by
  refine ⟨sorts_ofList xs, fun v items => gives_make items, ?_, gives_merge xs ys, ?_, ?_, ?_, ?_⟩
  · have again := gives_make (v := .list ((ofList xs).toList.map .error)) rfl
    rw [ofList_toList_ofList] at again
    exact again
  · intro w target name differ
    exact (gives_merge xs ys).lookup_other differ w
  · intro vs ws es fs
    rw [Command.gives_eq_iff, Command.gives_eq_iff, ofList_toList_ofList, merge_ofList,
      ← List.map_append]
    exact ⟨equal_self vs, equal_self (vs ++ ws)⟩
  · intro a b equal
    exact Command.gives_hash_eq (keysAgree_of_equal (Command.gives_eq_iff.mp equal))
  · intro a b equal
    exact Command.gives_hash_eq (Result.keysAgree_of_equal (Command.gives_eq_iff.mp equal))

/-- An error about a path, with an empty list as what was found. -/
def emptyListError (path ruleName : String) : KeyedError :=
  ⟨.plain path, .plain ruleName, .atom (.float 1 .nan) rfl, .list []⟩

/-- Three errors about two attributes, in turns. What they hold has no key, and is not a number. -/
theorem stable_grouping_in_turns :
    let first := emptyListError "name" "filled?"
    let second := emptyListError "age" "type?"
    let third := emptyListError "name" "size?"
    let es := ofList [first.toError, second.toError, third.toError]
    es.toList = [first.toError, third.toError, second.toError] ∧
      (Command.binary "eq" (.errorSet (ofList es.toList)) (.errorSet es)).Gives (.bool true) ∧
      (Command.binary "hash_eq" (.errorSet (ofList es.toList)) (.errorSet es)).Gives
        (.bool true) := by
  intro first second third es
  obtain ⟨sorts, -, -, -, -, equal, hashes, -⟩ :=
    stable_grouping [first.toError, second.toError, third.toError] []
  obtain ⟨again, -⟩ := equal [first, second, third] []
  exact ⟨sorts.sorted, again, hashes _ _ again⟩

end ErrorSet

end RecordRules
