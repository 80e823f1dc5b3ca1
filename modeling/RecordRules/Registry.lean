import RecordRules.Expr

/-!
Registries of predicates.

A registry finds predicates by the text of their names. Registering a predicate replaces one with
the same name in its place; expressions keep the predicates that they were made of, whatever
happens to the registry afterwards.
-/

namespace RecordRules

/-- Predicates by name, in the order in which the names were first registered. A predicate stands
under its own name. -/
structure Registry where
  entries : List (String × Predicate)
  keyed : ∀ e ∈ entries, e.2.key = e.1

namespace Registry

def empty : Registry := ⟨[], fun _ mem => absurd mem List.not_mem_nil⟩

def put (key : String) (p : Predicate) : List (String × Predicate) → List (String × Predicate)
  | [] => [(key, p)]
  | (k, q) :: rest => if k = key then (k, p) :: rest else (k, q) :: put key p rest

/-- Whatever stands among the entries after a predicate has been put there is that predicate under
its name, or stood there before. -/
theorem mem_put {key : String} {p : Predicate} {entries : List (String × Predicate)}
    {e : String × Predicate} (mem : e ∈ put key p entries) : e = (key, p) ∨ e ∈ entries := by
  induction entries with
  | nil => exact Or.inl (List.mem_singleton.mp mem)
  | cons head rest ih =>
      obtain ⟨k, q⟩ := head
      unfold put at mem
      split at mem
      · rename_i same
        rcases List.mem_cons.mp mem with here | later
        · exact Or.inl (same ▸ here)
        · exact Or.inr (List.mem_cons_of_mem _ later)
      · rcases List.mem_cons.mp mem with here | later
        · exact Or.inr (here ▸ List.mem_cons_self)
        · exact (ih later).imp_right (List.mem_cons_of_mem _)

def register (reg : Registry) (p : Predicate) : Registry where
  entries := put p.key p reg.entries
  keyed e mem := by
    rcases mem_put mem with rfl | old
    · rfl
    · exact reg.keyed e old

def registerAll (reg : Registry) (ps : List Predicate) : Registry := ps.foldl register reg

def unregister (reg : Registry) (key : String) : Registry where
  entries := reg.entries.filter fun e => e.1 != key
  keyed e mem := reg.keyed e (List.mem_filter.mp mem).1

def get? (reg : Registry) (key : String) : Option Predicate := reg.entries.lookup key

/-- A predicate is found under its own name only. -/
theorem key_of_get? {reg : Registry} {key : String} {p : Predicate}
    (found : reg.get? key = some p) : p.key = key := by
  obtain ⟨before, after, split, -⟩ := List.lookup_eq_some_iff.mp found
  exact reg.keyed (key, p) (split ▸ List.mem_append_right _ List.mem_cons_self)

def has (reg : Registry) (key : String) : Bool := (reg.get? key).isSome

def names (reg : Registry) : List String := reg.entries.map (·.1)

/-- The predicate with a name, or the fault that there is none. -/
def resolve (reg : Registry) (key : String) : Except Fault Predicate :=
  match reg.get? key with
  | some p => .ok p
  | none => .error (.unknownPredicate (.plain key) (reg.names.map .plain))

/-- Asks the predicate with a name about a value, without a check of the parameters. -/
def evaluate (reg : Registry) (key : String) (v : Value) (params : List Value) : Run Bool :=
  match reg.resolve key with
  | .ok p => ⟨p.test v params, [.called p v params]⟩
  | .error f => .fail f

/-- The registry that holds the predicates of the library, as objects with the tags from `tag`
on. -/
def standard (tag : Nat) : Registry :=
  empty.registerAll (Builtin.all.zipIdx.map fun (b, i) => .builtin (tag + i) b)

end Registry

/-- A predicate made of a function; the number of parameters cannot be negative. -/
def Predicate.ofFunction (tag : Nat) (name : Value) (f : Function) (arity : Int) :
    Except Fault Predicate :=
  if arity < 0 then .error (.ofMessage .value "arity must be >= 0")
  else .ok (.custom tag name f arity.toNat)

end RecordRules
