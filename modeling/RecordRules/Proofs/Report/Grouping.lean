import Mathlib.Data.List.Basic
import Mathlib.Data.List.Induction
import RecordRules.Report

/-!
Error sets as stable groupings.

`groups_ofList` says which set a list of errors makes: one group for each attribute that occurs, in
the order of first occurrence, with the errors of that attribute in the order of the list. What a
set answers about attributes, counts and emptiness follows from it.
-/

namespace RecordRules

def Error.attribute (e : Error) : String := e.path.text

namespace ErrorSet

/-! ### Adding one error -/

def groupAttribute (g : Label × List Error) : String := g.1.text

theorem insertInto_new {e : Error} {gs : List (Label × List Error)}
    (new : e.attribute ∉ gs.map groupAttribute) : insertInto e gs = gs ++ [(e.path, [e])] := by
  induction gs with
  | nil => rfl
  | cons g gs ih =>
      obtain ⟨path, es⟩ := g
      rw [List.map_cons, List.mem_cons, not_or] at new
      have other : ¬ path.text = e.path.text := fun same => new.1 same.symm
      rw [insertInto, if_neg other, ih new.2, List.cons_append]

theorem insertInto_old {e : Error} {gs : List (Label × List Error)}
    (distinct : (gs.map groupAttribute).Nodup) (old : e.attribute ∈ gs.map groupAttribute) :
    insertInto e gs =
      gs.map fun g => if groupAttribute g = e.attribute then (g.1, g.2 ++ [e]) else g := by
  induction gs with
  | nil => exact absurd old List.not_mem_nil
  | cons g gs ih =>
      obtain ⟨path, es⟩ := g
      rw [List.map_cons, List.nodup_cons] at distinct
      by_cases same : path.text = e.path.text
      · have rest : gs.map
            (fun g => if groupAttribute g = e.attribute then (g.1, g.2 ++ [e]) else g) = gs := by
          conv_rhs => rw [← List.map_id gs]
          refine List.map_congr_left fun g mem => if_neg fun here => distinct.1 ?_
          exact List.mem_map.mpr ⟨g, mem, here.trans same.symm⟩
        rw [insertInto, if_pos same, List.map_cons, rest]
        exact congrArg (· :: gs) (if_pos same).symm
      · have later : e.attribute ∈ gs.map groupAttribute := by
          rcases List.mem_cons.mp old with here | later
          · exact absurd here.symm same
          · exact later
        rw [insertInto, if_neg same, List.map_cons, ih distinct.2 later]
        exact congrArg (· :: _) (if_neg same).symm

/-! ### The set of a list of errors -/

theorem ofList_append_singleton (errors : List Error) (e : Error) :
    ofList (errors ++ [e]) = (ofList errors).insert e := by
  rw [ofList, List.foldl_append]
  rfl

/-- The attributes of some errors, each at its first place. -/
def attributesOf (errors : List Error) : List String := (errors.map Error.attribute).eraseDups

theorem mem_attributesOf {errors : List Error} {a : String} :
    a ∈ attributesOf errors ↔ ∃ e ∈ errors, e.attribute = a := by
  rw [attributesOf, List.mem_eraseDups, List.mem_map]

theorem attributesOf_old {errors : List Error} {e : Error}
    (old : e.attribute ∈ attributesOf errors) :
    attributesOf (errors ++ [e]) = attributesOf errors := by
  have mem := List.mem_eraseDups.mp old
  rw [attributesOf, List.map_append, List.eraseDups_append]
  simp [List.removeAll, -List.mem_map, mem, attributesOf]

theorem attributesOf_new {errors : List Error} {e : Error}
    (new : e.attribute ∉ attributesOf errors) :
    attributesOf (errors ++ [e]) = attributesOf errors ++ [e.attribute] := by
  have notMem := mt List.mem_eraseDups.mpr new
  rw [attributesOf, List.map_append, List.eraseDups_append]
  simp [List.removeAll, -List.mem_map, notMem, attributesOf, List.eraseDups_cons]

theorem attributesOf_nodup (errors : List Error) : (attributesOf errors).Nodup := by
  induction errors using List.reverseRecOn with
  | nil => exact List.nodup_nil
  | append_singleton errors e ih =>
      by_cases old : e.attribute ∈ attributesOf errors
      · rw [attributesOf_old old]
        exact ih
      · rw [attributesOf_new old]
        have single : [e.attribute].Nodup := List.nodup_cons.mpr ⟨List.not_mem_nil, List.nodup_nil⟩
        refine List.nodup_append.mpr ⟨ih, single, ?_⟩
        intro a mem b last same
        exact old (List.mem_singleton.mp last ▸ same ▸ mem)

/-- The errors for an attribute, in their order. -/
def errorsFor (a : String) (errors : List Error) : List Error :=
  errors.filter fun e => e.attribute == a

theorem errorsFor_append_singleton (a : String) (errors : List Error) (e : Error) :
    errorsFor a (errors ++ [e]) = errorsFor a errors ++ if e.attribute = a then [e] else [] := by
  by_cases same : e.attribute = a <;> simp [errorsFor, List.filter_append, same]

theorem errorsFor_eq_nil {a : String} {errors : List Error} (new : a ∉ attributesOf errors) :
    errorsFor a errors = [] := by
  refine List.filter_eq_nil_iff.mpr fun e mem same => new ?_
  exact mem_attributesOf.mpr ⟨e, mem, eq_of_beq same⟩

/-- The groups of a list of errors: the attributes in the order of their first error, each with its
errors in their order. -/
theorem groups_ofList (errors : List Error) :
    (ofList errors).groups.map (fun g => (groupAttribute g, g.2)) =
      (attributesOf errors).map fun a => (a, errorsFor a errors) := by
  induction errors using List.reverseRecOn with
  | nil => rfl
  | append_singleton errors e ih =>
      have attributes : (ofList errors).groups.map groupAttribute = attributesOf errors := by
        have firsts := congrArg (List.map Prod.fst) ih
        simpa only [List.map_map, Function.comp_def, List.map_id'] using firsts
      rw [ofList_append_singleton]
      change (insertInto e (ofList errors).groups).map _ = _
      by_cases old : e.attribute ∈ attributesOf errors
      · rw [insertInto_old (attributes ▸ attributesOf_nodup errors) (attributes ▸ old),
          attributesOf_old old]
        -- The group of the attribute grows at its end and the others stay.
        have grown := congrArg (List.map fun g : String × List Error =>
          (g.1, g.2 ++ if e.attribute = g.1 then [e] else [])) ih
        simp only [List.map_map, Function.comp_def, ← errorsFor_append_singleton] at grown
        rw [← grown, List.map_map]
        refine List.map_congr_left fun g _ => ?_
        by_cases same : groupAttribute g = e.attribute
        · simp only [Function.comp_apply, if_pos same, if_pos same.symm]
          rfl
        · simp only [Function.comp_apply, if_neg same, if_neg (Ne.symm same), List.append_nil]
      · rw [insertInto_new (attributes ▸ old), attributesOf_new old, List.map_append, ih,
          List.map_append]
        congr 1
        · refine List.map_congr_left fun a mem => ?_
          have other : e.attribute ≠ a := fun same => old (same ▸ mem)
          rw [errorsFor_append_singleton, if_neg other, List.append_nil]
        · rw [List.map_singleton, List.map_singleton, errorsFor_append_singleton,
            errorsFor_eq_nil old, if_pos rfl]
          rfl

/-! ### What the set answers -/

theorem attributes_ofList (errors : List Error) :
    (ofList errors).attributes.map Label.text = attributesOf errors := by
  have firsts := congrArg (List.map Prod.fst) (groups_ofList errors)
  simp only [List.map_map, Function.comp_def, List.map_id'] at firsts
  rw [← firsts, attributes, List.map_map]
  rfl

theorem forAttribute_eq_lookup (es : ErrorSet) (a : String) :
    es.forAttribute a = ((es.groups.map fun g => (groupAttribute g, g.2)).lookup a).getD [] := by
  obtain ⟨groups⟩ := es
  induction groups with
  | nil => rfl
  | cons g gs ih =>
      rw [forAttribute] at ih ⊢
      by_cases same : groupAttribute g = a
      · have found : (g.1.text == a) = true := beq_iff_eq.mpr same
        simp [found, same]
      · have other : (g.1.text == a) = false := beq_eq_false_iff_ne.mpr same
        have other' : (a == groupAttribute g) = false := beq_eq_false_iff_ne.mpr (Ne.symm same)
        simp only [List.find?_cons, other, List.map_cons, List.lookup_cons, other']
        exact ih

theorem forAttribute_ofList (errors : List Error) (a : String) :
    (ofList errors).forAttribute a = errorsFor a errors := by
  rw [forAttribute_eq_lookup, groups_ofList]
  by_cases mem : a ∈ attributesOf errors
  · rw [List.lookup_graph (fun a => errorsFor a errors) mem, Option.getD_some]
  · have missing :
        ((attributesOf errors).map fun a => (a, errorsFor a errors)).lookup a = none := by
      refine List.lookup_eq_none_iff.mpr fun g inGroups => ?_
      obtain ⟨b, memB, rfl⟩ := List.mem_map.mp inGroups
      exact bne_iff_ne.mpr fun same : a = b => mem (same ▸ memB)
    rw [missing, Option.getD_none, errorsFor_eq_nil mem]

theorem length_insertInto (e : Error) (gs : List (Label × List Error)) :
    ErrorSet.length ⟨insertInto e gs⟩ = ErrorSet.length ⟨gs⟩ + 1 := by
  induction gs with
  | nil => rfl
  | cons g gs ih =>
      obtain ⟨path, es⟩ := g
      rw [insertInto]
      split
      · simp [ErrorSet.length]
        omega
      · simp only [ErrorSet.length, List.foldr_cons] at ih ⊢
        omega

theorem length_ofList (errors : List Error) : (ofList errors).length = errors.length := by
  induction errors using List.reverseRecOn with
  | nil => rfl
  | append_singleton errors e ih =>
      rw [ofList_append_singleton, List.length_append, List.length_singleton, ← ih]
      exact length_insertInto e _

theorem isEmpty_ofList (errors : List Error) : (ofList errors).isEmpty = errors.isEmpty := by
  cases errors with
  | nil => rfl
  | cons e errors =>
      have counted := length_ofList (e :: errors)
      cases groups : (ofList (e :: errors)).groups with
      | nil => simp [ErrorSet.length, groups] at counted
      | cons g gs => rw [isEmpty, groups]; rfl

end ErrorSet

end RecordRules
