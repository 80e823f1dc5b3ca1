import Mathlib.Data.List.Induction
import RecordRules.Proofs.Registry.Lookup

/-!
What a registry finds after it has been written to.

A write puts a predicate under its own name or removes what stands under a name. After any writes a
name finds the predicate that was put there last, unless that was removed since, and what it found
before if no write was about the name (`Registry.get?_writeAll_iff`).
-/

namespace RecordRules

namespace Registry

inductive Write where
  | put (p : Predicate)
  | remove (name : String)

def Write.key : Write → String
  | .put p => p.key
  | .remove name => name

/-- What a write leaves under its name. -/
def Write.left : Write → Option Predicate
  | .put p => some p
  | .remove _ => none

def write (reg : Registry) : Write → Registry
  | .put p => reg.register p
  | .remove name => reg.unregister name

def writeAll (reg : Registry) (writes : List Write) : Registry :=
  writes.foldl write reg

/-- A name has a predicate after some writes: it was put there and no later write is about the name,
or it was there before and no write is. -/
inductive Keeps (reg : Registry) (name : String) (p : Predicate) : List Write → Prop where
  | before {writes : List Write} (found : reg.get? name = some p)
      (since : ∀ x ∈ writes, x.key ≠ name) : Keeps reg name p writes
  | put {earlier later : List Write} (key : p.key = name) (since : ∀ x ∈ later, x.key ≠ name) :
      Keeps reg name p (earlier ++ .put p :: later)

theorem get?_unregister (reg : Registry) (name other : String) :
    (reg.unregister name).get? other = if other = name then none else reg.get? other := by
  by_cases same : other = name
  · rw [if_pos same, get?, List.lookup_eq_none_iff]
    intro e mem
    have left : e.1 ≠ name := by simpa using (List.mem_filter.mp mem).2
    simpa [same] using left.symm
  · rw [if_neg same]
    exact lookup_filter_ne same reg.entries

/-- A write decides what is found under its name, and nothing else. -/
theorem get?_write (reg : Registry) (x : Write) (name : String) :
    (reg.write x).get? name = if x.key = name then x.left else reg.get? name := by
  cases x with
  | put p =>
      rw [write, get?_register]
      simp only [eq_comm, Write.key, Write.left]
  | remove key =>
      rw [write, get?_unregister]
      simp only [eq_comm, Write.key, Write.left]

theorem writeAll_append (reg : Registry) (xs ys : List Write) :
    reg.writeAll (xs ++ ys) = (reg.writeAll xs).writeAll ys :=
  List.foldl_append

theorem get?_writeAll_of_untouched {reg : Registry} {writes : List Write} {name : String}
    (untouched : ∀ x ∈ writes, x.key ≠ name) : (reg.writeAll writes).get? name = reg.get? name := by
  induction writes generalizing reg with
  | nil => rfl
  | cons x xs ih =>
      obtain ⟨here, later⟩ := List.forall_mem_cons.mp untouched
      exact (ih later).trans ((get?_write reg x name).trans (if_neg here))

/-- A write about another name changes nothing. -/
theorem Keeps.snoc {reg : Registry} {name : String} {p : Predicate} {writes : List Write}
    {x : Write} (kept : reg.Keeps name p writes) (other : x.key ≠ name) :
    reg.Keeps name p (writes ++ [x]) := by
  have last : ∀ y ∈ [x], y.key ≠ name := List.forall_mem_singleton.mpr other
  cases kept with
  | before found since => exact .before found (List.forall_mem_append.mpr ⟨since, last⟩)
  | put key since =>
      rw [List.append_assoc]
      exact .put key (List.forall_mem_append.mpr ⟨since, last⟩)

/-- The last write about a name decides. -/
theorem get?_writeAll_iff {reg : Registry} {writes : List Write} {name : String} {p : Predicate} :
    (reg.writeAll writes).get? name = some p ↔ reg.Keeps name p writes := by
  constructor
  · -- the last write is looked at first: it is about the name, or the ones before it decide
    induction writes using List.reverseRecOn with
    | nil => exact fun found => .before found nofun
    | append_singleton xs x ih =>
        intro found
        have step : ((reg.writeAll xs).write x).get? name = some p := by
          rwa [writeAll_append] at found
        rw [get?_write] at step
        by_cases about : x.key = name
        · rw [if_pos about] at step
          cases x with
          | put q =>
              obtain rfl := Option.some.inj step
              exact .put about nofun
          | remove => cases step
        · rw [if_neg about] at step
          exact (ih step).snoc about
  · rintro (⟨found, since⟩ | ⟨key, since⟩)
    · rw [get?_writeAll_of_untouched since, found]
    · rw [writeAll_append]
      refine (get?_writeAll_of_untouched since).trans ?_
      exact (get?_write _ _ _).trans (if_pos key)

/-- The names are those under which something is found. -/
theorem mem_names_iff {reg : Registry} {name : String} :
    name ∈ reg.names ↔ (reg.get? name).isSome = true := by
  rw [Option.isSome_iff_ne_none, Ne, get?, List.lookup_eq_none_iff, names, List.mem_map]
  constructor
  · rintro ⟨e, mem, rfl⟩ missing
    simpa using missing e mem
  · intro found
    by_contra missing
    refine found fun e mem => ?_
    have other : name ≠ e.1 := fun same => missing ⟨e, mem, same.symm⟩
    simpa using other

end Registry

end RecordRules
