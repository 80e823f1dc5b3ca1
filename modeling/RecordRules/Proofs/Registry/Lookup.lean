import RecordRules.Registry

/-!
What a registry finds under a name.

Whatever has been registered before, the predicate found under a name is the last one that was
registered with that name. So a new registry holds the predicates of the library under their own
texts, and nothing else.
-/

namespace RecordRules

/-- Entries that are left out have other keys than the one that is looked for. -/
theorem lookup_filter_ne {α : Type} {name other : String} (differ : other ≠ name)
    (entries : List (String × α)) :
    (entries.filter (·.1 != name)).lookup other = entries.lookup other := by
  induction entries with
  | nil => rfl
  | cons entry rest ih =>
      obtain ⟨key, v⟩ := entry
      by_cases here : key = name
      · subst here
        simp [List.lookup_cons, beq_false_of_ne differ, ih]
      · simp [here, List.lookup_cons, ih]

namespace Registry

theorem lookup_put (key name : String) (p : Predicate) (entries : List (String × Predicate)) :
    (put key p entries).lookup name = if name = key then some p else entries.lookup name := by
  induction entries with
  | nil =>
      by_cases same : name = key
      · simp [put, same]
      · simp [put, same, List.lookup_cons, beq_false_of_ne same]
  | cons entry rest ih =>
      obtain ⟨k, q⟩ := entry
      by_cases here : k = key
      · by_cases same : name = key
        · simp [put, here, same]
        · simp [put, here, same, List.lookup_cons, beq_false_of_ne same]
      · by_cases first : name = k
        · subst first
          simp [put, here]
        · simp [put, here, List.lookup_cons, beq_false_of_ne first, ih]

theorem get?_register (reg : Registry) (p : Predicate) (name : String) :
    (reg.register p).get? name = if name = p.key then some p else reg.get? name :=
  lookup_put p.key name p reg.entries

/-- The last predicate with a name is found, and the one that was there before if there is none. -/
theorem get?_registerAll (reg : Registry) (ps : List Predicate) (name : String) :
    (reg.registerAll ps).get? name =
      (ps.reverse.find? fun p => p.key == name).or (reg.get? name) := by
  induction ps generalizing reg with
  | nil => rfl
  | cons p ps ih =>
      have step : reg.registerAll (p :: ps) = (reg.register p).registerAll ps := rfl
      rw [step, ih, get?_register, List.reverse_cons, List.find?_append, Option.or_assoc]
      by_cases same : name = p.key
      · simp [same]
      · have other : ¬ p.key = name := fun h => same h.symm
        simp [same, other]

end Registry

/-! ### A new registry -/

/-- The predicate of the library that a new registry holds, made with the tags from `tag` on. -/
def Builtin.predicate (tag : Nat) (b : Builtin) : Predicate :=
  .builtin (tag + Builtin.all.idxOf b) b

/-- No two predicates of the library have the same text. -/
theorem Builtin.eq_of_text_eq {a b : Builtin} (h : a.text = b.text) : a = b := by
  have same := PredicateName.eq_of_text_eq (m := .builtin a) (n := .builtin b) h
  exact PredicateName.builtin.inj same

theorem Builtin.mem_all (b : Builtin) : b ∈ Builtin.all := by
  cases b <;> decide

theorem Builtin.mem_predicates {tag : Nat} {p : Predicate} :
    p ∈ (Builtin.all.map (Builtin.predicate tag)).reverse ↔ ∃ b : Builtin, p = b.predicate tag := by
  rw [List.mem_reverse, List.mem_map]
  constructor
  · rintro ⟨b, -, rfl⟩
    exact ⟨b, rfl⟩
  · rintro ⟨b, rfl⟩
    exact ⟨b, b.mem_all, rfl⟩

/-- A new registry holds the predicates of the library, and those alone. -/
theorem Registry.get?_standard {tag : Nat} {name : String} {p : Predicate} :
    (Registry.standard tag).get? name = some p ↔
      ∃ b : Builtin, name = b.text ∧ p = b.predicate tag := by
  have made : Registry.standard tag =
      Registry.empty.registerAll (Builtin.all.map (Builtin.predicate tag)) := rfl
  have nothing : Registry.empty.get? name = none := rfl
  rw [made, get?_registerAll, nothing, Option.or_none]
  -- no two of the predicates have the same text, so the last one with a name is the only one
  constructor
  · intro found
    obtain ⟨b, rfl⟩ := Builtin.mem_predicates.mp (List.mem_of_find?_eq_some found)
    have key := List.find?_some found
    exact ⟨b, (eq_of_beq key).symm, rfl⟩
  · rintro ⟨b, rfl, rfl⟩
    obtain ⟨q, found⟩ : ∃ q, (Builtin.all.map (Builtin.predicate tag)).reverse.find?
        (fun p => p.key == b.text) = some q := by
      rw [← Option.isSome_iff_exists, List.find?_isSome]
      exact ⟨b.predicate tag, Builtin.mem_predicates.mpr ⟨b, rfl⟩, beq_self_eq_true b.text⟩
    obtain ⟨c, rfl⟩ := Builtin.mem_predicates.mp (List.mem_of_find?_eq_some found)
    have key := List.find?_some found
    rw [found, Builtin.eq_of_text_eq (eq_of_beq key)]

/-- A new registry resolves the name of a predicate of the library to it. -/
theorem Registry.resolve_standard (tag : Nat) (b : Builtin) :
    (Registry.standard tag).resolve b.text = .ok (b.predicate tag) := by
  have found : (Registry.standard tag).get? b.text = some (b.predicate tag) :=
    get?_standard.mpr ⟨b, rfl, rfl⟩
  rw [resolve, found]

end RecordRules
