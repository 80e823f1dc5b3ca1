import RecordRules.Proofs.Value.Keys
import RecordRules.Value.Key

/-!
Entries of dictionaries.

Setting an entry keeps the keys as they stand, or adds the new one as the last (`keys_insertEntry`).
As a key, text is the same as text with the same characters and as nothing else
(`sameKey_text_iff`). So setting the entry of a text key, or removing all its entries, changes what
is found under that text and nothing else.
-/

namespace RecordRules

namespace Value

variable {v w : Value}

theorem sameKey_eq_true_iff : v.sameKey w = true ↔ v.keysAgree w = true ∧ v.same w = .ok true := by
  rw [keysAgree_iff]
  unfold sameKey
  split
  · rename_i k l key key' same
    constructor
    · intro agree
      exact ⟨⟨k, l, key, key', agree⟩, same⟩
    · rintro ⟨⟨k', l', left, right, agree⟩, -⟩
      cases key.symm.trans left
      cases key'.symm.trans right
      exact agree
  · rename_i unlike
    refine iff_of_false nofun ?_
    rintro ⟨⟨k, l, left, right, -⟩, same⟩
    exact unlike k l left right same

/-- Values that a collection takes for the same are identical or equal. -/
theorem same_of_sameKey (h : v.sameKey w = true) : v.same w = .ok true :=
  (sameKey_eq_true_iff.mp h).2

theorem meets_eq_true_iff : v.meets w = .ok true ↔ v.sameKey w = true := by
  rw [sameKey_eq_true_iff, meets]
  split
  · rename_i agree
    exact (and_iff_right agree).symm
  · rename_i differ
    exact iff_of_false nofun fun both => differ both.1

/-- A search among keys that comes to an answer finds a key that is taken for the same. -/
theorem any_sameKey {keys : List Value} {found : Bool}
    (search : anyHolds v.meets keys = .ok found) : keys.any v.sameKey = found := by
  cases found with
  | true =>
      obtain ⟨k, mem, met⟩ := exists_of_anyHolds search
      exact List.any_eq_true.mpr ⟨k, mem, meets_eq_true_iff.mp met⟩
  | false =>
      refine List.any_eq_false.mpr fun k mem same => ?_
      cases (anyHolds_eq_no_iff.mp search k mem).symm.trans (meets_eq_true_iff.mpr same)

theorem same_text_iff {key : Label} {v : Value} :
    (Value.text key).same v = .ok true ↔ v.text? = some key.text := by
  cases v with
  | text label =>
      have same : (Value.text key).same (.text label) = .ok (key.text == label.text) := rfl
      have text : (Value.text label).text? = some label.text := rfl
      rw [same, text, Except.ok.injEq, beq_iff_eq, Option.some.injEq, eq_comm]
  | record r =>
      constructor
      · intro found
        simp only [same, sameOr, identical, equal, refusal?] at found
        cases refusal : r.comparison <;> (rw [refusal] at found; cases found)
      · intro text
        cases text
  | _ =>
      constructor
      · intro same
        cases same
      · intro text
        cases text

theorem sameKey_text_iff {key : Label} {v : Value} :
    (Value.text key).sameKey v = true ↔ v.text? = some key.text := by
  refine ⟨fun h => same_text_iff.mp (same_of_sameKey h), fun h => ?_⟩
  have same := same_text_iff.mpr h
  cases v with
  | text label =>
      rw [sameKey, same]
      change (HashKey.plain (.text key)).agrees (.plain (.text label)) = true
      have plain : sameOr (.text key) (.text label) (Value.text key).equalPlain = .ok true := same
      rw [HashKey.agrees, plain]
  | _ => cases h

/-- Text can be looked for among any keys: what refuses comparisons has no key. -/
theorem meets_text_answers (key : Label) (v : Value) : Answers ((text key).meets v) := by
  unfold meets
  split
  · rename_i agree
    cases v with
    | record r =>
        obtain ⟨k, l, -, there, -⟩ := keysAgree_iff.mp agree
        cases refusal : r.comparison with
        | none =>
            refine same_answers ?_
            rw [equal_atom (v := .text key) (w := .record r) rfl rfl refusal]
            exact .ok false
        | some f => rw [hashKey, refusal] at there; cases there
    | _ => exact ⟨_, rfl⟩
  · exact .ok false

end Value

section Insertion

variable {key value : Value} {entries : List (Value × Value)}

/-- The keys stay as they stand, unless the new one is the same as none of them. -/
theorem keys_insertEntry :
    (insertEntry key value entries).map Prod.fst =
      if (entries.map Prod.fst).any key.sameKey then entries.map Prod.fst
      else entries.map Prod.fst ++ [key] := by
  induction entries with
  | nil => rfl
  | cons e entries ih =>
      obtain ⟨k, v⟩ := e
      rw [insertEntry, List.map_cons, List.any_cons]
      by_cases same : key.sameKey k = true
      · rw [if_pos same, same]
        rfl
      · rw [if_neg same, List.map_cons, ih, Bool.eq_false_iff.mpr same, Bool.false_or]
        split <;> rfl

theorem values_insertEntry {e : Value × Value} (mem : e ∈ insertEntry key value entries) :
    e.2 = value ∨ e ∈ entries := by
  induction entries with
  | nil =>
      cases List.mem_singleton.mp mem
      exact .inl rfl
  | cons d entries ih =>
      obtain ⟨k, v⟩ := d
      rw [insertEntry] at mem
      split at mem
      · rcases List.mem_cons.mp mem with rfl | later
        · exact .inl rfl
        · exact .inr (List.mem_cons_of_mem _ later)
      · rcases List.mem_cons.mp mem with rfl | later
        · exact .inr List.mem_cons_self
        · exact (ih later).imp_right (List.mem_cons_of_mem _)

theorem keys_of_mem_insertEntry {e : Value × Value} (mem : e ∈ insertEntry key value entries) :
    e.1 = key ∨ e.1 ∈ entries.map Prod.fst := by
  have inKeys : e.1 ∈ (insertEntry key value entries).map Prod.fst := List.mem_map_of_mem mem
  rw [keys_insertEntry] at inKeys
  split at inKeys
  · exact .inr inKeys
  · exact (List.mem_append.mp inKeys).symm.imp_left List.mem_singleton.mp

theorem setEntry_ok_iff {entry : Value × Value} {next : List (Value × Value)} :
    setEntry entries entry = .ok next ↔ ∃ k found, entry.1.hashKey = .ok k ∧
      anyHolds entry.1.meets (entries.map Prod.fst) = .ok found ∧
      next = insertEntry entry.1 entry.2 entries := by
  simp only [setEntry, Except.bind_ok_iff]
  constructor
  · rintro ⟨k, here, found, search, last⟩
    exact ⟨k, found, here, search, (Except.ok.inj last).symm⟩
  · rintro ⟨k, found, here, search, rfl⟩
    exact ⟨k, here, found, search, rfl⟩

/-- Under a text key an entry can always be set. -/
theorem setEntry_text (key : Label) :
    setEntry entries (.text key, value) = .ok (insertEntry (.text key) value entries) := by
  obtain ⟨found, search⟩ := Value.anyHolds_answers fun v (_ : v ∈ entries.map Prod.fst) =>
    Value.meets_text_answers key v
  exact setEntry_ok_iff.mpr ⟨_, found, rfl, search, rfl⟩

theorem insertMember_ok_iff {members next : List Value} :
    insertMember members value = .ok next ↔ ∃ k found, value.hashKey = .ok k ∧
      anyHolds value.meets members = .ok found ∧
      next = if found then members else members ++ [value] := by
  simp only [insertMember, Except.bind_ok_iff]
  constructor
  · rintro ⟨k, here, found, search, last⟩
    refine ⟨k, found, here, search, ?_⟩
    cases found <;> exact (Except.ok.inj last).symm
  · rintro ⟨k, found, here, search, rfl⟩
    refine ⟨k, here, found, search, ?_⟩
    cases found <;> rfl

/-- A set holds nothing but the items that it is made of. -/
theorem mem_of_membersOf {items members : List Value} (made : membersOf items = .ok members) :
    ∀ m ∈ members, m ∈ items := by
  refine Except.foldlM_keeps (P := fun members => ∀ m ∈ members, m ∈ items)
    (List.forall_mem_nil _) (fun v mem before after among step => ?_) made
  obtain ⟨-, found, -, -, rfl⟩ := insertMember_ok_iff.mp step
  cases found with
  | true => exact among
  | false => exact List.forall_mem_append.mpr ⟨among, List.forall_mem_singleton.mpr mem⟩

/-- A dictionary holds nothing but the keys and the values that it is made of. -/
theorem mem_of_entriesOf {pairs : List (Value × Value)} (made : entriesOf pairs = .ok entries) :
    ∀ e ∈ entries, (∃ p ∈ pairs, p.1 = e.1) ∧ ∃ p ∈ pairs, p.2 = e.2 := by
  refine Except.foldlM_keeps
    (P := fun entries => ∀ e ∈ entries, (∃ p ∈ pairs, p.1 = e.1) ∧ ∃ p ∈ pairs, p.2 = e.2)
    (List.forall_mem_nil _) (fun p mem before after among step => ?_) made
  obtain ⟨-, -, -, -, rfl⟩ := setEntry_ok_iff.mp step
  intro e inAfter
  constructor
  · rcases keys_of_mem_insertEntry inAfter with key | old
    · exact ⟨p, mem, key.symm⟩
    · obtain ⟨d, inBefore, same⟩ := List.mem_map.mp old
      exact same ▸ (among d inBefore).1
  · rcases values_insertEntry inAfter with value | old
    · exact ⟨p, mem, value.symm⟩
    · exact (among e old).2

end Insertion

section Entries

variable {key k : Label} {v : Value}

theorem lookupKey_cons {l w : Value} {entries : List (Value × Value)} :
    lookupKey (.text key) ((l, w) :: entries) =
      if l.text? = some key.text then some w else lookupKey (.text key) entries := by
  simp only [lookupKey, Value.sameKey_text_iff]

/-- Setting the entry of a text key changes what is found under that text. -/
theorem lookupKey_insertEntry (entries : List (Value × Value)) :
    lookupKey (.text key) (insertEntry (.text k) v entries) =
      if key.text = k.text then some v else lookupKey (.text key) entries := by
  induction entries with
  | nil =>
      rw [insertEntry, lookupKey_cons]
      simp only [Value.text?, Option.some.injEq, eq_comm]
  | cons entry entries ih =>
      obtain ⟨l, w⟩ := entry
      simp only [insertEntry, Value.sameKey_text_iff]
      by_cases here : l.text? = some k.text
      · rw [if_pos here, lookupKey_cons, lookupKey_cons, here]
        simp only [Option.some.injEq, eq_comm]
        split <;> rfl
      · rw [if_neg here, lookupKey_cons, lookupKey_cons, ih]
        split
        · rename_i found
          have other : key.text ≠ k.text := fun same => here (same ▸ found)
          rw [if_neg other]
        · rfl

/-- The entries whose key is not the same as a given one. -/
def eraseEntry (key : Value) (entries : List (Value × Value)) : List (Value × Value) :=
  entries.filter fun e => !key.sameKey e.1

/-- Removing the entries of a text key changes what is found under that text. -/
theorem lookupKey_eraseEntry (entries : List (Value × Value)) :
    lookupKey (.text key) (eraseEntry (.text k) entries) =
      if key.text = k.text then none else lookupKey (.text key) entries := by
  induction entries with
  | nil => exact (ite_self none).symm
  | cons entry entries ih =>
      obtain ⟨l, w⟩ := entry
      by_cases here : l.text? = some k.text
      · have gone : eraseEntry (.text k) ((l, w) :: entries) = eraseEntry (.text k) entries :=
          List.filter_cons_of_neg (by simp [Value.sameKey_text_iff.mpr here])
        rw [gone, ih, lookupKey_cons, here]
        simp only [Option.some.injEq, eq_comm]
        split <;> rfl
      · have kept : eraseEntry (.text k) ((l, w) :: entries) =
            (l, w) :: eraseEntry (.text k) entries :=
          List.filter_cons_of_pos (by simp [mt Value.sameKey_text_iff.mp here])
        rw [kept, lookupKey_cons, lookupKey_cons, ih]
        split
        · rename_i found
          have other : key.text ≠ k.text := fun same => here (same ▸ found)
          rw [if_neg other]
        · rfl

/-- What is found among entries is the value of one of them. -/
theorem mem_of_lookupKey {key w : Value} {entries : List (Value × Value)}
    (found : lookupKey key entries = some w) : ∃ e ∈ entries, e.2 = w := by
  induction entries with
  | nil => cases found
  | cons entry entries ih =>
      obtain ⟨l, u⟩ := entry
      rw [lookupKey] at found
      split at found
      · cases found
        exact ⟨_, List.mem_cons_self, rfl⟩
      · obtain ⟨e, mem, value⟩ := ih found
        exact ⟨e, List.mem_cons_of_mem _ mem, value⟩

end Entries

end RecordRules
