import RecordRules.Proofs.Value.Keys

/-!
Values that are alike.

Two values are alike if they are taken apart in the same way into parts that are alike, down to
atoms that are the same. Members and entries are alike if each has its like on the other side, with
an agreeing key. Being alike is symmetric and transitive, and so is having a like key
(`Alike.symm`, `Alike.trans`, `LikeKeys.symm`, `LikeKeys.trans`).
-/

namespace RecordRules

open Value (PartsAgree)

/-! ### Tables -/

/-- The entries that a value is taken apart into, in any order. The members of a set are entries
without values. -/
def Form.table? : Form → Option (List (Value × Value))
  | .members items => some (items.map fun v => (v, .none))
  | .entries es => some es
  | _ => none

/-- Only members and entries in any order make a table. -/
theorem Form.unordered_of_table? {f : Form} {ds : List (Value × Value)} (h : f.table? = some ds) :
    f.kind ≠ .atom ∧ f.kind ≠ .ordered := by
  cases f with
  | members | entries => exact ⟨nofun, nofun⟩
  | atom | ordered => cases h

theorem findEntry_members (test : Value → Except Fault Bool) (ws : List Value) :
    findEntry test (ws.map fun w => (w, .none)) =
      (anyHolds test ws).map fun holds => if holds then some .none else none := by
  induction ws with
  | nil => rfl
  | cons w ws ih =>
      rw [List.map_cons, findEntry, anyHolds, ih]
      rcases test w with f | _ | _ <;> rfl

/-- Members are equal as entries without values. -/
theorem equalMembers_eq (vs ws : List Value) :
    equalMembers vs ws = equalEntries (vs.map fun v => (v, .none)) (ws.map fun w => (w, .none)) := by
  induction vs with
  | nil => rfl
  | cons v vs ih =>
      rw [List.map_cons, equalMembers, equalEntries, findEntry_members, ih]
      rcases anyHolds _ ws with f | _ | _ <;> rfl

section Tables

variable {v w : Value} {ds es : List (Value × Value)}

/-- Entries are compared in any order, if there are as many. -/
theorem equal_table (left : v.form.table? = some ds) (right : w.form.table? = some es)
    (kind : v.form.kind = w.form.kind) (readable : v.IsReadable) (readable' : w.IsReadable) :
    v.equal w = if ds.length = es.length then equalEntries ds es else .ok false := by
  cases form : v.form with
  | members xs =>
      cases form' : w.form with
      | members ys =>
          rw [form] at left
          rw [form'] at right
          cases left
          cases right
          rw [equal_members form form', equalMembers_eq, List.length_map, List.length_map]
      | _ => rw [form, form'] at kind; cases kind
  | entries _ =>
      cases form' : w.form with
      | entries _ =>
          rw [form] at left
          rw [form'] at right
          cases left
          cases right
          exact equal_entries form form' readable readable'
      | _ => rw [form, form'] at kind; cases kind
  | atom | ordered => rw [form] at left; cases left

theorem keysAgree_table_iff (left : v.form.table? = some ds) (right : w.form.table? = some es)
    (kind : v.form.kind = w.form.kind) :
    v.keysAgree w = true ↔ (∃ k, v.hashKey = .ok k) ∧ (∃ l, w.hashKey = .ok l) ∧
      ds.length = es.length ∧ ∀ d ∈ ds, ∃ e ∈ es, d.1.keysAgree e.1 = true := by
  cases form : v.form with
  | members xs =>
      cases form' : w.form with
      | members ys =>
          rw [form] at left
          rw [form'] at right
          cases left
          cases right
          rw [Value.keysAgree_members_iff form form']
          simp
      | _ => rw [form, form'] at kind; cases kind
  | entries _ =>
      have unkeyed := Value.unkeyed_entries form
      refine iff_of_false (fun agree => unkeyed ?_) fun keys => unkeyed keys.1
      obtain ⟨k, -, key, -⟩ := Value.keysAgree_iff.mp agree
      exact ⟨k, key⟩
  | atom | ordered => rw [form] at left; cases left

end Tables

/-! ### Alike -/

/-- Two values are alike. -/
inductive Alike : Value → Value → Prop
  | atom {v w : Value} (left : v.form = .atom) (right : w.form = .atom) (same : SameAtom v w) :
      Alike v w
  | ordered {v w : Value} {s : Shape} {xs ys : List Value} (left : v.form = .ordered s xs)
      (right : w.form = .ordered s ys) (length : xs.length = ys.length)
      (parts : ∀ p ∈ xs.zip ys, Alike p.1 p.2) : Alike v w
  | table {v w : Value} {ds es : List (Value × Value)} (there back : Value × Value → Value × Value)
      (left : v.form.table? = some ds) (right : w.form.table? = some es)
      (kind : v.form.kind = w.form.kind) (length : ds.length = es.length)
      (thereMem : ∀ d ∈ ds, there d ∈ es) (backMem : ∀ e ∈ es, back e ∈ ds)
      (thereAgree : ∀ d ∈ ds, d.1.keysAgree (there d).1 = true)
      (backAgree : ∀ e ∈ es, e.1.keysAgree (back e).1 = true)
      (thereKeys : ∀ d ∈ ds, Alike d.1 (there d).1) (backKeys : ∀ e ∈ es, Alike e.1 (back e).1)
      (thereValues : ∀ d ∈ ds, Alike d.2 (there d).2)
      (backValues : ∀ e ∈ es, Alike e.2 (back e).2) : Alike v w

/-- Two values that are alike, with keys that agree. -/
def LikeKeys (v w : Value) : Prop := v.keysAgree w = true ∧ Alike v w

namespace Alike

variable {u v w : Value}

theorem of_forall₂ {s : Shape} {xs ys : List Value} (left : v.form = .ordered s xs)
    (right : w.form = .ordered s ys) (parts : List.Forall₂ Alike xs ys) : Alike v w :=
  .ordered left right parts.length_eq fun _ mem => List.forall₂_zip parts mem

/-- Entries are alike that have their like on the other side. -/
theorem of_entries {ds es : List (Value × Value)} (left : v.form.table? = some ds)
    (right : w.form.table? = some es) (kind : v.form.kind = w.form.kind)
    (length : ds.length = es.length)
    (there : ∀ d ∈ ds, ∃ e ∈ es, LikeKeys d.1 e.1 ∧ Alike d.2 e.2)
    (back : ∀ e ∈ es, ∃ d ∈ ds, LikeKeys e.1 d.1 ∧ Alike e.2 d.2) : Alike v w := by
  choose! f fMem fKeys fValues using there
  choose! g gMem gKeys gValues using back
  exact .table f g left right kind length fMem gMem (fun d mem => (fKeys d mem).1)
    (fun e mem => (gKeys e mem).1) (fun d mem => (fKeys d mem).2) (fun e mem => (gKeys e mem).2)
    fValues gValues

theorem symm (alike : Alike v w) : Alike w v := by
  induction alike with
  | atom left right same => exact .atom right left same.symm
  | @ordered v w s xs ys left right length parts ih =>
      refine .of_forall₂ right left (List.Forall₂.flip ?_)
      exact List.forall₂_iff_zip.mpr ⟨length, fun mem => ih _ mem⟩
  | table there back left right kind length thereMem backMem thereAgree backAgree thereKeys backKeys
      thereValues backValues =>
      exact .table back there right left kind.symm length.symm backMem thereMem backAgree thereAgree
        backKeys thereKeys backValues thereValues

theorem kind (alike : Alike v w) : v.form.kind = w.form.kind := by
  cases alike with
  | atom left right => rw [left, right]
  | ordered left right =>
      rw [left, right]
      rfl
  | table _ _ _ _ kind => exact kind

theorem atom_inv (alike : Alike v w) (form : v.form = .atom) : w.form = .atom ∧ SameAtom v w := by
  cases alike with
  | atom _ right same => exact ⟨right, same⟩
  | ordered left => cases form.symm.trans left
  | table _ _ left => rw [form] at left; cases left

theorem ordered_inv {s : Shape} {xs : List Value} (alike : Alike v w)
    (form : v.form = .ordered s xs) : ∃ ys, w.form = .ordered s ys ∧ List.Forall₂ Alike xs ys := by
  cases alike with
  | atom left => cases form.symm.trans left
  | ordered left right length parts =>
      cases form.symm.trans left
      exact ⟨_, right, List.forall₂_iff_zip.mpr ⟨length, fun mem => parts _ mem⟩⟩
  | table _ _ left => rw [form] at left; cases left

/-- What is alike to entries: entries each of which has its like on the other side. -/
structure Tables (w : Value) (kind : Form.Kind) (ds es : List (Value × Value)) : Prop where
  form : w.form.table? = some es
  kind : kind = w.form.kind
  length : ds.length = es.length
  there : ∀ d ∈ ds, ∃ e ∈ es, LikeKeys d.1 e.1 ∧ Alike d.2 e.2
  back : ∀ e ∈ es, ∃ d ∈ ds, LikeKeys e.1 d.1 ∧ Alike e.2 d.2

theorem table_inv {ds : List (Value × Value)} (alike : Alike v w)
    (form : v.form.table? = some ds) : ∃ es, Tables w v.form.kind ds es := by
  cases alike with
  | atom left => rw [left] at form; cases form
  | ordered left => rw [left] at form; cases form
  | @table _ _ _ es there back left right kind length thereMem backMem thereAgree backAgree
      thereKeys backKeys thereValues backValues =>
      cases form.symm.trans left
      refine ⟨es, right, kind, length, fun d mem => ?_, fun e mem => ?_⟩
      · exact ⟨there d, thereMem d mem, ⟨thereAgree d mem, thereKeys d mem⟩, thereValues d mem⟩
      · exact ⟨back e, backMem e mem, ⟨backAgree e mem, backKeys e mem⟩, backValues e mem⟩

/-- Two values are alike to the same values. -/
def SameLikes (v w : Value) : Prop := ∀ u, Alike v u ↔ Alike w u

theorem SameLikes.symm (likes : SameLikes v w) : SameLikes w v := fun u => (likes u).symm

theorem SameLikes.right (likes : SameLikes v w) (alike : Alike u v) : Alike u w :=
  ((likes u).mp alike.symm).symm

theorem of_ordered_likes {s : Shape} {xs ys : List Value} (left : u.form = .ordered s xs)
    (right : v.form = .ordered s ys) (parts : List.Forall₂ SameLikes xs ys) (alike : Alike v w) :
    Alike u w := by
  obtain ⟨zs, form, parts'⟩ := alike.ordered_inv right
  refine .of_forall₂ left form (forall₂_comp (parts.imp fun x y likes z => ?_) parts')
  exact (likes z).mpr

theorem of_table_likes {ds es : List (Value × Value)} (left : u.form.table? = some ds)
    (right : v.form.table? = some es) (kind : u.form.kind = v.form.kind)
    (length : ds.length = es.length)
    (there : ∀ d ∈ ds, ∃ e ∈ es, d.1.keysAgree e.1 = true ∧ SameLikes d.1 e.1 ∧ SameLikes d.2 e.2)
    (back : ∀ e ∈ es, ∃ d ∈ ds, e.1.keysAgree d.1 = true ∧ SameLikes e.1 d.1 ∧ SameLikes e.2 d.2)
    (alike : Alike v w) : Alike u w := by
  obtain ⟨fs, tables⟩ := alike.table_inv right
  refine .of_entries left tables.form (kind.trans tables.kind) (length.trans tables.length) ?_ ?_
  · intro d inDs
    obtain ⟨e, inEs, agree, keys, values⟩ := there d inDs
    obtain ⟨f, inFs, like, value⟩ := tables.there e inEs
    exact ⟨f, inFs, ⟨Value.keysAgree_trans agree like.1, (keys f.1).mpr like.2⟩,
      (values f.2).mpr value⟩
  · intro f inFs
    obtain ⟨e, inEs, like, value⟩ := tables.back f inFs
    obtain ⟨d, inDs, agree, keys, values⟩ := back e inEs
    exact ⟨d, inDs, ⟨Value.keysAgree_trans like.1 agree, keys.right like.2⟩, values.right value⟩

theorem sameLikes (alike : Alike u v) : SameLikes u v := by
  induction alike with
  | atom left right same =>
      intro w
      constructor
      · intro alike
        obtain ⟨form, same'⟩ := alike.atom_inv left
        exact .atom right form (same.symm.trans same')
      · intro alike
        obtain ⟨form, same'⟩ := alike.atom_inv right
        exact .atom left form (same.trans same')
  | @ordered u v s xs ys left right length parts ih =>
      have likes : List.Forall₂ SameLikes xs ys :=
        List.forall₂_iff_zip.mpr ⟨length, fun mem => ih _ mem⟩
      have likes' : List.Forall₂ SameLikes ys xs :=
        List.Forall₂.flip (likes.imp fun x y likes => likes.symm)
      exact fun w => ⟨of_ordered_likes right left likes', of_ordered_likes left right likes⟩
  | @table u v ds es there back left right kind length thereMem backMem thereAgree backAgree _ _ _ _
      thereKeys backKeys thereValues backValues =>
      have forth : ∀ d ∈ ds, ∃ e ∈ es,
          d.1.keysAgree e.1 = true ∧ SameLikes d.1 e.1 ∧ SameLikes d.2 e.2 := fun d mem =>
        ⟨there d, thereMem d mem, thereAgree d mem, thereKeys d mem, thereValues d mem⟩
      have home : ∀ e ∈ es, ∃ d ∈ ds,
          e.1.keysAgree d.1 = true ∧ SameLikes e.1 d.1 ∧ SameLikes e.2 d.2 := fun e mem =>
        ⟨back e, backMem e mem, backAgree e mem, backKeys e mem, backValues e mem⟩
      exact fun w => ⟨of_table_likes right left kind.symm length.symm home forth,
        of_table_likes left right kind length forth home⟩

theorem trans (first : Alike u v) (second : Alike v w) : Alike u w :=
  (first.sameLikes w).mpr second

end Alike

/-! ### Like keys -/

section Keys

variable {u v w : Value}

theorem alike_groupValue {g h : Label × List Error} (alike : Alike (groupValue g) (groupValue h)) :
    g.1.text = h.1.text ∧ g.2.length = h.2.length := by
  obtain ⟨_, form, parts⟩ := alike.ordered_inv rfl
  cases form
  obtain ⟨label, errors⟩ := List.forall₂_cons.mp parts
  have lengths := errors.length_eq
  rw [List.length_map, List.length_map] at lengths
  have same := (label.atom_inv rfl).2
  exact ⟨HashKey.agrees_label_iff.mp (HashKey.agrees_plain_iff.mpr same), lengths⟩

/-- Where the keys of values that are alike agree, they agree in both directions. -/
theorem keysAgree_symm (alike : Alike v w) (agree : v.keysAgree w = true) :
    w.keysAgree v = true := by
  induction alike with
  | atom left right same =>
      obtain ⟨k, l, key, key', -⟩ := Value.keysAgree_iff.mp agree
      exact Value.keysAgree_of_sameAtom same.symm key' key
  | @ordered v w s xs ys left right length parts ih =>
      have left' := isOrdered_of_form left
      have right' := isOrdered_of_form right
      have alikes : List.Forall₂ Alike xs ys :=
        List.forall₂_iff_zip.mpr ⟨length, fun mem => parts _ mem⟩
      cases report : s.isReport with
      | true =>
          exact Value.keysAgree_of_reports (fun g h => alike_groupValue) right' left' rfl report
            (List.Forall₂.flip (alikes.imp fun x y alike => alike.symm))
      | false =>
          have flip : PartsAgree xs ys → PartsAgree ys xs := by
            intro agree
            refine List.Forall₂.flip (List.forall₂_iff_zip.mpr ⟨length, fun mem => ?_⟩)
            exact ih _ mem (List.forall₂_zip agree mem)
          have keys := (Value.keysAgree_ordered_iff left' right' rfl report).mp agree
          refine (Value.keysAgree_ordered_iff right' left' rfl report).mpr ?_
          cases s with
          | list n => exact keys
          | bound key => exact keys.imp flip fun ⟨fault, fault', same⟩ => ⟨fault', fault, same.symm⟩
          | _ => exact flip keys
  | @table v w ds es there back left right kind length thereMem backMem thereAgree backAgree =>
      obtain ⟨key, key', -⟩ := (keysAgree_table_iff left right kind).mp agree
      refine (keysAgree_table_iff right left kind.symm).mpr
        ⟨key', key, length.symm, fun e mem => ?_⟩
      exact ⟨back e, backMem e mem, backAgree e mem⟩

theorem LikeKeys.symm (like : LikeKeys v w) : LikeKeys w v :=
  ⟨keysAgree_symm like.2 like.1, like.2.symm⟩

theorem LikeKeys.trans (first : LikeKeys u v) (second : LikeKeys v w) : LikeKeys u w :=
  ⟨Value.keysAgree_trans first.1 second.1, first.2.trans second.2⟩

end Keys

end RecordRules
