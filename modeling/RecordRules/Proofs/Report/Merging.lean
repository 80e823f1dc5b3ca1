import Mathlib.Data.List.Nodup
import RecordRules.Proofs.Report.Grouping

/-!
Merging error sets.

The groups that a list of errors makes are of a certain form: they are a `Grouping`. A grouping can
be taken apart and made again: the set of its errors has these groups (`ofList_toList`). What a list
contributes to a longer one is therefore only the set that it makes (`ofList_append_congr`). So
merging the sets of two lists gives the set of both lists in a row, merging is associative, and the
set without errors is its identity.
-/

namespace RecordRules

namespace ErrorSet

/-! ### The form of groups -/

/-- Groups as a list of errors makes them: one for each attribute, each with some error, labelled by
the path of its first one, and all its errors are for its attribute. -/
structure IsGrouping (gs : List (Label × List Error)) : Prop where
  distinct : (gs.map groupAttribute).Nodup
  labelled : ∀ g ∈ gs, ∃ e es, g = (e.path, e :: es)
  uniform : ∀ g ∈ gs, ∀ e ∈ g.2, e.attribute = groupAttribute g

/-- Groups with one more error keep their form. -/
theorem IsGrouping.insertInto {gs : List (Label × List Error)} (grouping : IsGrouping gs)
    (e : Error) : IsGrouping (insertInto e gs) := by
  by_cases old : e.attribute ∈ gs.map groupAttribute
  · rw [insertInto_old grouping.distinct old]
    refine ⟨?_, ?_, ?_⟩
    · have same : ((fun g => groupAttribute g) ∘ fun g : Label × List Error =>
          if groupAttribute g = e.attribute then (g.1, g.2 ++ [e]) else g) = groupAttribute := by
        funext g
        dsimp only [Function.comp_apply]
        split <;> rfl
      rw [List.map_map, same]
      exact grouping.distinct
    · intro g mem
      obtain ⟨h, before, rfl⟩ := List.mem_map.mp mem
      obtain ⟨f, fs, rfl⟩ := grouping.labelled h before
      dsimp only
      split
      · exact ⟨f, fs ++ [e], rfl⟩
      · exact ⟨f, fs, rfl⟩
    · intro g mem
      obtain ⟨h, before, rfl⟩ := List.mem_map.mp mem
      have uniform := grouping.uniform h before
      split
      · rename_i here
        intro f inGroup
        rcases List.mem_append.mp inGroup with early | last
        · exact uniform f early
        · exact List.mem_singleton.mp last ▸ here.symm
      · exact uniform
  · rw [insertInto_new old]
    refine ⟨?_, ?_, ?_⟩
    · rw [List.map_append, List.map_singleton, ← List.concat_eq_append]
      exact List.Nodup.concat old grouping.distinct
    · intro g mem
      rcases List.mem_append.mp mem with early | last
      · exact grouping.labelled g early
      · exact ⟨e, [], List.mem_singleton.mp last⟩
    · intro g mem
      rcases List.mem_append.mp mem with early | last
      · exact grouping.uniform g early
      · obtain rfl := List.mem_singleton.mp last
        intro f inGroup
        exact List.mem_singleton.mp inGroup ▸ rfl

/-- Groups that carry the proof of their form. -/
abbrev Grouping := {gs : List (Label × List Error) // IsGrouping gs}

namespace Grouping

def empty : Grouping := ⟨[], List.nodup_nil, nofun, nofun⟩

def insert (s : Grouping) (e : Error) : Grouping := ⟨insertInto e s.1, s.2.insertInto e⟩

def ofList (errors : List Error) : Grouping := errors.foldl insert empty

theorem ofList_append_singleton (errors : List Error) (e : Error) :
    ofList (errors ++ [e]) = (ofList errors).insert e := by
  rw [ofList, List.foldl_append]
  rfl

end Grouping

/-- A list of errors makes groups of that form. -/
theorem ofList_eq_mk (errors : List Error) : ofList errors = ⟨(Grouping.ofList errors).1⟩ := by
  induction errors using List.reverseRecOn with
  | nil => rfl
  | append_singleton errors e ih =>
      rw [ofList_append_singleton, ih, Grouping.ofList_append_singleton]
      rfl

/-! ### Taking a set apart and making it again -/

theorem insertInto_last {gs : List (Label × List Error)} {path : Label} {es : List Error}
    {e : Error} (new : e.attribute ∉ gs.map groupAttribute) (same : e.attribute = path.text) :
    insertInto e (gs ++ [(path, es)]) = gs ++ [(path, es ++ [e])] := by
  induction gs with
  | nil => exact if_pos same.symm
  | cons g gs ih =>
      obtain ⟨path', es'⟩ := g
      rw [List.map_cons, List.mem_cons, not_or] at new
      have other : ¬ path'.text = e.path.text := fun here => new.1 here.symm
      rw [List.cons_append, insertInto, if_neg other, ih new.2, List.cons_append]

/-- The errors of one group, added to groups without its attribute, make the group again. -/
theorem foldl_insert_group {gs : List (Label × List Error)} {e : Error} {es : List Error}
    (new : e.attribute ∉ gs.map groupAttribute) (uniform : ∀ f ∈ es, f.attribute = e.attribute) :
    (e :: es).foldl insert ⟨gs⟩ = ⟨gs ++ [(e.path, e :: es)]⟩ := by
  induction es using List.reverseRecOn with
  | nil => exact congrArg ErrorSet.mk (insertInto_new new)
  | append_singleton es f ih =>
      have same : f.attribute = e.attribute :=
        uniform f (List.mem_append_right _ List.mem_cons_self)
      have earlier := ih fun f' mem => uniform f' (List.mem_append_left _ mem)
      rw [← List.cons_append, List.foldl_append, earlier]
      exact congrArg ErrorSet.mk (insertInto_last (same ▸ new) same)

/-- The errors of some groups, added after other groups, make the groups again. -/
theorem foldl_insert_groups (s : Grouping) {gs hs : List (Label × List Error)}
    (split : s.1 = gs ++ hs) : (hs.flatMap (·.2)).foldl insert ⟨gs⟩ = ⟨s.1⟩ := by
  induction hs generalizing gs with
  | nil =>
      rw [List.append_nil] at split
      exact congrArg ErrorSet.mk split.symm
  | cons h hs ih =>
      have here : h ∈ s.1 := split ▸ List.mem_append_right _ List.mem_cons_self
      obtain ⟨e, es, rfl⟩ := s.2.labelled h here
      have new : e.attribute ∉ gs.map groupAttribute := by
        have distinct := s.2.distinct
        rw [split, List.map_append, List.map_cons] at distinct
        intro old
        exact (List.nodup_append.mp distinct).2.2 _ old _ List.mem_cons_self rfl
      have uniform : ∀ f ∈ es, f.attribute = e.attribute :=
        fun f mem => s.2.uniform _ here f (List.mem_cons_of_mem _ mem)
      rw [List.flatMap_cons, List.foldl_append, foldl_insert_group new uniform]
      exact ih (split.trans (List.append_cons _ _ _))

theorem ofList_toList (s : Grouping) : ofList (ErrorSet.mk s.1).toList = ⟨s.1⟩ :=
  foldl_insert_groups s (List.nil_append _).symm

/-- Making the set of a list again changes nothing. -/
theorem ofList_toList_ofList (errors : List Error) :
    ofList (ofList errors).toList = ofList errors := by
  rw [ofList_eq_mk errors]
  exact ofList_toList _

/-! ### What a list contributes -/

/-- A group by its attribute and its errors: the label is the path of the first error. -/
def groupOf (a : String) (errors : List Error) : Label × List Error :=
  ((errors.head?.map Error.path).getD (.plain a), errors)

theorem groups_eq_map_groupOf (s : Grouping) :
    (s.1.map fun g => (groupAttribute g, g.2)).map (fun p => groupOf p.1 p.2) = s.1 := by
  rw [List.map_map]
  refine (List.map_congr_left fun g mem => ?_).trans (List.map_id s.1)
  obtain ⟨e, es, rfl⟩ := s.2.labelled g mem
  rfl

/-- The set of a list by its attributes and the errors of each. -/
theorem ofList_eq_groupOf (errors : List Error) :
    ofList errors = ⟨(attributesOf errors).map fun a => groupOf a (errorsFor a errors)⟩ := by
  have groups := groups_ofList errors
  rw [ofList_eq_mk] at groups ⊢
  rw [← groups_eq_map_groupOf (Grouping.ofList errors), groups, List.map_map]
  rfl

/-- Two lists make the same set exactly when they have the same attributes, first ones first, and
for each attribute the same errors. -/
theorem ofList_eq_iff {xs ys : List Error} :
    ofList xs = ofList ys ↔
      attributesOf xs = attributesOf ys ∧ ∀ a, errorsFor a xs = errorsFor a ys := by
  constructor
  · intro same
    refine ⟨?_, fun a => ?_⟩
    · rw [← attributes_ofList, same, attributes_ofList]
    · rw [← forAttribute_ofList, same, forAttribute_ofList]
  · rintro ⟨attributes, each⟩
    rw [ofList_eq_groupOf, ofList_eq_groupOf, attributes]
    simp only [each]

/-- The attributes of two lists in a row: those of the first, then what the second adds. -/
theorem attributesOf_append (xs ys : List Error) :
    attributesOf (xs ++ ys) =
      attributesOf xs ++ (attributesOf ys).filter fun a => a ∉ attributesOf xs := by
  induction ys using List.reverseRecOn with
  | nil => simp [attributesOf]
  | append_singleton ys e ih =>
      have either : e.attribute ∈ attributesOf (xs ++ ys) ↔
          e.attribute ∈ attributesOf xs ∨ e.attribute ∈ attributesOf ys := by
        simp only [mem_attributesOf, List.mem_append, or_and_right, exists_or]
      rw [← List.append_assoc]
      by_cases late : e.attribute ∈ attributesOf ys
      · rw [attributesOf_old (either.mpr (.inr late)), attributesOf_old late, ih]
      · by_cases early : e.attribute ∈ attributesOf xs
        · rw [attributesOf_old (either.mpr (.inl early)), attributesOf_new late, ih]
          simp [early]
        · have new := mt either.mp (not_or.mpr ⟨early, late⟩)
          rw [attributesOf_new new, attributesOf_new late, ih]
          simp [early]

/-- Of a list only the set that it makes matters to the set of a longer list. -/
theorem ofList_append_congr {xs xs' ys ys' : List Error} (first : ofList xs = ofList xs')
    (second : ofList ys = ofList ys') : ofList (xs ++ ys) = ofList (xs' ++ ys') := by
  obtain ⟨attributes, each⟩ := ofList_eq_iff.mp first
  obtain ⟨attributes', each'⟩ := ofList_eq_iff.mp second
  refine ofList_eq_iff.mpr ⟨?_, fun a => ?_⟩
  · rw [attributesOf_append, attributesOf_append, attributes, attributes']
  · have split (vs ws : List Error) : errorsFor a (vs ++ ws) = errorsFor a vs ++ errorsFor a ws :=
      List.filter_append vs ws
    rw [split, split, each, each']

/-! ### Merging -/

/-- Merging the sets of two lists gives the set of both lists in a row. -/
theorem merge_ofList (xs ys : List Error) : (ofList xs).merge (ofList ys) = ofList (xs ++ ys) :=
  ofList_append_congr (ofList_toList_ofList xs) (ofList_toList_ofList ys)

theorem merge_empty (errors : List Error) : (ofList errors).merge empty = ofList errors := by
  rw [merge, show empty.toList = [] from rfl, List.append_nil, ofList_toList_ofList]

theorem empty_merge (errors : List Error) : empty.merge (ofList errors) = ofList errors :=
  ofList_toList_ofList errors

theorem merge_assoc (a b c : ErrorSet) : (a.merge b).merge c = a.merge (b.merge c) :=
  calc (a.merge b).merge c
    _ = ofList (a.toList ++ b.toList ++ c.toList) :=
        ofList_append_congr (ofList_toList_ofList _) rfl
    _ = ofList (a.toList ++ (b.toList ++ c.toList)) := by rw [List.append_assoc]
    _ = a.merge (b.merge c) := (ofList_append_congr rfl (ofList_toList_ofList _)).symm

end ErrorSet

end RecordRules
