import RecordRules.Proofs.Expr.Equality
import RecordRules.Proofs.Value.Comparable
import RecordRules.Proofs.Value.Entries

/-!
Values that are the same as themselves.

Identity or equality finds every value to be the same as itself, whatever it holds: what is not
equal to itself is identical to itself, and so is a record that refuses every comparison. Only sets
and dictionaries ask for something. They look for each key of theirs among their own keys, so a key
has to be found where it stands and not before (`IsWellKeyed`). This is how they are made: a key is
looked for before it is put in (`IsKeyed.membersOf`, `IsKeyed.entriesOf`). A `KeyedValue` is a value
with the proof of it.
-/

namespace RecordRules

/-! ### Keys as collections come to hold them -/

/-- Each of some keys is one, and meets none before it. -/
structure IsKeyed (keys : List Value) : Prop where
  keyed : ∀ k ∈ keys, ∃ key, k.hashKey = .ok key
  distinct : keys.Pairwise fun k l => l.meets k = .ok false

namespace IsKeyed

variable {key : Value} {keys next : List Value} {entry : Value × Value}
  {entries after : List (Value × Value)}

theorem nil : IsKeyed [] := ⟨List.forall_mem_nil _, .nil⟩

/-- A key that meets no other can stand last. -/
theorem append (isKeyed : IsKeyed keys) {k : HashKey} (here : key.hashKey = .ok k)
    (unmet : anyHolds key.meets keys = .ok false) : IsKeyed (keys ++ [key]) := by
  refine ⟨List.forall_mem_append.mpr ⟨isKeyed.keyed, List.forall_mem_singleton.mpr ⟨k, here⟩⟩, ?_⟩
  refine List.pairwise_append.mpr ⟨isKeyed.distinct, List.pairwise_singleton _ _, ?_⟩
  intro l mem _ last
  cases List.mem_singleton.mp last
  exact anyHolds_eq_no_iff.mp unmet l mem

theorem insertMember (isKeyed : IsKeyed keys) (made : insertMember keys key = .ok next) :
    IsKeyed next := by
  obtain ⟨k, found, here, search, rfl⟩ := insertMember_ok_iff.mp made
  cases found with
  | true => exact isKeyed
  | false => exact isKeyed.append here search

theorem setEntry (isKeyed : IsKeyed (entries.map Prod.fst))
    (made : setEntry entries entry = .ok after) : IsKeyed (after.map Prod.fst) := by
  obtain ⟨k, found, here, search, rfl⟩ := setEntry_ok_iff.mp made
  rw [keys_insertEntry, Value.any_sameKey search]
  cases found with
  | true => exact isKeyed
  | false => exact isKeyed.append here search

theorem membersOf {items : List Value} (made : membersOf items = .ok next) : IsKeyed next :=
  Except.foldlM_keeps nil (fun _ _ _ _ isKeyed step => isKeyed.insertMember step) made

theorem entriesOf {pairs : List (Value × Value)} (made : entriesOf pairs = .ok after) :
    IsKeyed (after.map Prod.fst) :=
  Except.foldlM_keeps (P := fun entries => IsKeyed (entries.map Prod.fst)) nil
    (fun _ _ _ _ isKeyed step => isKeyed.setEntry step) made

end IsKeyed

namespace Value

/-- On every level of a value, the keys of sets and dictionaries are found, and none of them meets
an earlier one. Mappings answer for themselves. -/
inductive IsWellKeyed : Value → Prop
  | atom {v : Value} (form : v.form = .atom) : IsWellKeyed v
  | ordered {v : Value} {s : Shape} {xs : List Value} (form : v.form = .ordered s xs)
      (parts : ∀ x ∈ xs, IsWellKeyed x) : IsWellKeyed v
  | mapping (m : Mapping) : IsWellKeyed (.mapping m)
  | table {v : Value} {ds : List (Value × Value)} (form : v.form.table? = some ds)
      (isKeyed : IsKeyed (ds.map Prod.fst))
      (keys : ∀ d ∈ ds, IsWellKeyed d.1) (values : ∀ d ∈ ds, IsWellKeyed d.2) : IsWellKeyed v

variable {v : Value} {ds : List (Value × Value)}

theorem isSame_of_atom (atom : v.form = .atom) : v.IsSame := by
  by_cases identical : v.identical v = true
  · exact if_pos identical
  · have calm : v.refusal? = Option.none := by
      cases v with
      | record r => exact absurd (beq_self_eq_true r.tag) identical
      | _ => rfl
    have plain : v.equal v = v.equalPlain v := equal_atom atom calm calm
    have same : sameOr v v v.equal = sameOr v v v.equalPlain := by rw [sameOr, sameOr, plain]
    exact same.trans (sameOr_self atom)

/-- The entry that is found stands after others of which the test does not hold. -/
theorem findEntry_of_split {test : Value → Except Fault Bool} {before after : List (Value × Value)}
    {d : Value × Value} (unmet : ∀ e ∈ before, test e.1 = .ok false) (met : test d.1 = .ok true) :
    findEntry test (before ++ d :: after) = .ok (some d.2) := by
  induction before with
  | nil =>
      rw [List.nil_append, findEntry, met]
      rfl
  | cons e before ih =>
      obtain ⟨no, others⟩ := List.forall_mem_cons.mp unmet
      rw [List.cons_append, findEntry, no]
      exact ih others

/-- Entries are among those of a table if each finds itself there. -/
theorem equalEntries_of_split {es : List (Value × Value)}
    (agree : ∀ d ∈ ds, d.1.keysAgree d.1 = true)
    (distinct : ds.Pairwise fun d e => e.1.meets d.1 = .ok false)
    (keys : ∀ d ∈ ds, d.1.IsSame) (values : ∀ d ∈ ds, d.2.IsSame) (among : es ⊆ ds) :
    equalEntries es ds = .ok true := by
  induction es with
  | nil => rfl
  | cons e es ih =>
      obtain ⟨here, others⟩ := List.cons_subset.mp among
      obtain ⟨before, after, split⟩ := List.append_of_mem here
      obtain ⟨k, w⟩ := e
      have found : findEntry k.meets ds = .ok (some w) := by
        rw [split] at distinct ⊢
        refine findEntry_of_split (d := (k, w)) (fun d inBefore => ?_) ?_
        · obtain ⟨-, -, apart⟩ := List.pairwise_append.mp distinct
          exact apart d inBefore (k, w) List.mem_cons_self
        · exact (if_pos (agree (k, w) here)).trans (keys (k, w) here)
      have same : sameOr w w w.equal = .ok true := values (k, w) here
      have next : equalEntries ((k, w) :: es) ds =
          (do if ← sameOr w w w.equal then equalEntries es ds else return false) :=
        congrArg (· >>= _) found
      rw [next, same]
      exact ih others

/-- A well-keyed value is the same as itself, and its key agrees with itself if it has one. -/
theorem IsWellKeyed.self (wellKeyed : v.IsWellKeyed) :
    v.IsSame ∧ ∀ k, v.hashKey = .ok k → v.keysAgree v = true := by
  induction wellKeyed with
  | atom form =>
      exact ⟨isSame_of_atom form, fun k key => keysAgree_of_sameAtom (.itself form) key key⟩
  | @ordered v s xs form parts ih =>
      refine ⟨?_, fun k => keysAgree_self_of_parts form fun x mem => (ih x mem).2⟩
      have same : v.same v = v.equal v :=
        same_eq_equal (by rw [form]; exact nofun) (by rw [form]; exact nofun)
      rw [IsSame, same, equal_ordered form form, if_pos rfl]
      exact Expr.equalItems_self fun x mem => (ih x mem).1
  | mapping m => exact ⟨if_pos (beq_self_eq_true m.tag), fun k key => nomatch key⟩
  | @table v ds form isKeyed _ _ ihKeys ihValues =>
      have agree : ∀ d ∈ ds, d.1.keysAgree d.1 = true := by
        intro d mem
        obtain ⟨k, key⟩ := isKeyed.keyed d.1 (List.mem_map_of_mem mem)
        exact (ihKeys d mem).2 k key
      refine ⟨?_, fun k => keysAgree_self_of_entries form agree⟩
      by_cases identical : v.identical v = true
      · exact if_pos identical
      · have readable : v.IsReadable := by
          rintro m rfl
          exact absurd (beq_self_eq_true m.tag) identical
        have same : v.same v = v.equal v := if_neg identical
        rw [IsSame, same, equal_table form form rfl readable readable, if_pos rfl]
        have distinct := List.pairwise_map.mp isKeyed.distinct
        exact equalEntries_of_split agree distinct (fun d mem => (ihKeys d mem).1)
          (fun d mem => (ihValues d mem).1) (List.Subset.refl ds)

theorem IsWellKeyed.isSame (wellKeyed : v.IsWellKeyed) : v.IsSame := wellKeyed.self.1

/-- A dictionary stays well-keyed when the entry of a text key is set. -/
theorem IsWellKeyed.insertEntry {readOnly : Bool} (wellKeyed : (dict readOnly ds).IsWellKeyed)
    (value : v.IsWellKeyed) (key : Label) :
    (dict readOnly (insertEntry (.text key) v ds)).IsWellKeyed := by
  cases wellKeyed with
  | atom form | ordered form => cases form
  | table form isKeyed keys values =>
      cases form
      have next : IsKeyed ((RecordRules.insertEntry (.text key) v ds).map Prod.fst) :=
        isKeyed.setEntry (setEntry_text key)
      refine .table (v := .dict readOnly _) rfl next (fun e mem => ?_) fun e mem => ?_
      · rcases keys_of_mem_insertEntry mem with new | old
        · exact new ▸ .atom rfl
        · obtain ⟨d, inDs, same⟩ := List.mem_map.mp old
          exact same ▸ keys d inDs
      · rcases values_insertEntry mem with new | old
        · exact new ▸ value
        · exact values e old

end Value

/-! ### Values that carry the proof -/

/-- A value whose keys are found, on every level. -/
abbrev KeyedValue := {v : Value // v.IsWellKeyed}

namespace KeyedValue

def atom (v : Value) (form : v.form = .atom) : KeyedValue := ⟨v, .atom form⟩

def list (items : List KeyedValue) : KeyedValue :=
  ⟨.list (items.map Subtype.val), .ordered rfl (List.forall_mem_map.mpr fun v _ => v.2)⟩

theorem isWellKeyed_set {items : List KeyedValue} {members : List Value}
    (made : membersOf (items.map Subtype.val) = .ok members) (frozen : Bool) :
    (Value.set frozen members).IsWellKeyed := by
  have parts : ∀ m ∈ members, m.IsWellKeyed := by
    intro m mem
    obtain ⟨v, -, rfl⟩ := List.mem_map.mp (mem_of_membersOf made m mem)
    exact v.2
  have keys : (members.map fun m => (m, Value.none)).map Prod.fst = members := by
    rw [List.map_map]
    exact List.map_id members
  refine .table (v := .set frozen members) rfl ?_ (List.forall_mem_map.mpr parts) ?_
  · rw [keys]
    exact .membersOf made
  · exact List.forall_mem_map.mpr fun _ _ => .atom rfl

/-- The set of some values, unless one has no key or a comparison fails. -/
def set (frozen : Bool) (items : List KeyedValue) : Except Fault KeyedValue :=
  match made : membersOf (items.map Subtype.val) with
  | .error f => .error f
  | .ok members => .ok ⟨.set frozen members, isWellKeyed_set made frozen⟩

theorem isWellKeyed_dict {pairs : List (KeyedValue × KeyedValue)} {entries : List (Value × Value)}
    (made : entriesOf (pairs.map fun p => (p.1.1, p.2.1)) = .ok entries) (readOnly : Bool) :
    (Value.dict readOnly entries).IsWellKeyed := by
  refine .table (v := .dict readOnly entries) rfl (.entriesOf made) (fun e mem => ?_)
    fun e mem => ?_
  · obtain ⟨⟨p, inPairs, key⟩, -⟩ := mem_of_entriesOf made e mem
    obtain ⟨pair, -, rfl⟩ := List.mem_map.mp inPairs
    exact key ▸ pair.1.2
  · obtain ⟨-, p, inPairs, value⟩ := mem_of_entriesOf made e mem
    obtain ⟨pair, -, rfl⟩ := List.mem_map.mp inPairs
    exact value ▸ pair.2.2

/-- The dictionary of some entries, unless a key is none or a comparison fails. -/
def dict (readOnly : Bool) (pairs : List (KeyedValue × KeyedValue)) : Except Fault KeyedValue :=
  match made : entriesOf (pairs.map fun p => (p.1.1, p.2.1)) with
  | .error f => .error f
  | .ok entries => .ok ⟨.dict readOnly entries, isWellKeyed_dict made readOnly⟩

end KeyedValue

/-- An error that holds such values. -/
structure KeyedError where
  path : Label
  ruleName : Label
  expected : KeyedValue
  actual : KeyedValue

def KeyedError.toError (e : KeyedError) : Error :=
  ⟨e.path, e.ruleName, e.expected, e.actual⟩

theorem KeyedError.equal_self (e : KeyedError) : e.toError.equal e.toError = .ok true := by
  have same : sameOr e.expected.1 e.expected.1 e.expected.1.equal = .ok true := e.expected.2.isSame
  rw [toError, Error.equal, if_pos ⟨rfl, rfl⟩, same]
  exact e.actual.2.isSame

end RecordRules
