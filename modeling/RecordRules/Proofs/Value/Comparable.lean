import Mathlib.Data.List.Pairwise
import RecordRules.Proofs.Value.Alike

/-!
Comparisons that come to an answer.

Values are comparable if nothing that they hold refuses a comparison, and if they are made as
values are: no two keys of a collection are alike, and what is identified by a tag or by a source is
one thing. Comparing two such values always comes to an answer, and the answer is whether they are
alike (`Value.same_decides`).
-/

namespace RecordRules

/-! ### Answers to questions -/

/-- A computation that comes to the answer to a question. -/
def Decides (x : Except Fault Bool) (question : Prop) : Prop :=
  ∃ b, x = .ok b ∧ (b = true ↔ question)

namespace Decides

variable {x y : Except Fault Bool} {p q : Prop}

theorem of_true (h : p) : Decides (.ok true) p := ⟨true, rfl, iff_of_true rfl h⟩

theorem of_false (h : ¬ p) : Decides (.ok false) p := ⟨false, rfl, iff_of_false nofun h⟩

theorem congr (decides : Decides x p) (same : p ↔ q) : Decides x q := by
  obtain ⟨b, answer, iff⟩ := decides
  exact ⟨b, answer, iff.trans same⟩

/-- Two answers to one question are the same. -/
theorem eq (left : Decides x p) (right : Decides y p) : x = y := by
  obtain ⟨b, rfl, iff⟩ := left
  obtain ⟨c, rfl, iff'⟩ := right
  rw [Bool.eq_iff_iff.mpr (iff.trans iff'.symm)]

theorem eq_true_iff (decides : Decides x p) : x = .ok true ↔ p := by
  obtain ⟨b, rfl, iff⟩ := decides
  rw [Except.ok.injEq, iff]

/-- Two questions in a row, the second one only after a yes. -/
theorem and (first : Decides x p) (second : p → Decides y q) :
    Decides (do if ← x then y else return false) (p ∧ q) := by
  obtain ⟨b, rfl, iff⟩ := first
  cases b with
  | true => exact (second (iff.mp rfl)).congr (and_iff_right (iff.mp rfl)).symm
  | false => exact of_false fun both => nomatch iff.mpr both.1

/-- Two questions in a row, the second one only after a no. -/
theorem or (first : Decides x p) (second : ¬ p → Decides y q) :
    Decides (do if ← x then return true else y) (p ∨ q) := by
  obtain ⟨b, rfl, iff⟩ := first
  cases b with
  | true => exact of_true (.inl (iff.mp rfl))
  | false =>
      have no : ¬ p := fun yes => nomatch iff.mpr yes
      exact (second no).congr (or_iff_right no).symm

/-- A question that is only asked under a condition. -/
theorem ite {c : Prop} [Decidable c] (asked : c → Decides x p) :
    Decides (if c then x else .ok false) (c ∧ p) := by
  split
  · rename_i h
    exact (asked h).congr (and_iff_right h).symm
  · rename_i h
    exact of_false fun both => h both.1

end Decides

/-! ### Comparable values -/

/-- What the tags of mappings, and the sources and modes of patterns stand for. -/
structure Heap where
  mapping : Nat → Mapping
  pattern : String → Pattern.Flags → Pattern.Compiled

/-- A heap on which every mapping is empty and all patterns are one. -/
instance : Inhabited Heap := ⟨fun tag => ⟨tag, "", [], []⟩, fun _ _ => default⟩

namespace Value

/-- No comparison among what a value holds is refused. A key stands only once in a collection, and
mappings and patterns are those of the heap. -/
inductive IsComparable (h : Heap) : Value → Prop
  | atom {v : Value} (form : v.form = .atom) (calm : v.refusal? = Option.none) (quiet : v.IsQuiet)
      (known : ∀ p, v = .regex p → p = h.pattern p.source p.flags) : IsComparable h v
  | ordered {v : Value} {s : Shape} {xs : List Value} (form : v.form = .ordered s xs)
      (parts : ∀ x ∈ xs, IsComparable h x) : IsComparable h v
  | table {v : Value} {ds : List (Value × Value)} (form : v.form.table? = some ds)
      (readable : v.IsReadable) (known : ∀ m, v = .mapping m → m = h.mapping m.tag)
      (keyed : ∀ d ∈ ds, ∃ k, d.1.hashKey = .ok k)
      (distinct : ds.Pairwise fun d e => ¬ LikeKeys d.1 e.1)
      (keys : ∀ d ∈ ds, IsComparable h d.1) (values : ∀ d ∈ ds, IsComparable h d.2) :
      IsComparable h v

section Comparable

variable {h : Heap} {v w : Value}

theorem IsComparable.parts {s : Shape} {xs : List Value} (comparable : v.IsComparable h)
    (form : v.form = .ordered s xs) : ∀ x ∈ xs, x.IsComparable h := by
  cases comparable with
  | atom form' => cases form.symm.trans form'
  | ordered form' parts =>
      cases form.symm.trans form'
      exact parts
  | table form' => rw [form] at form'; cases form'

/-- The parts of an ordered value have keys if it has one, unless it is a leaf of an expression. -/
theorem hashKeys_of_hashKey {s : Shape} {xs : List Value} {k : HashKey} (ordered : IsOrdered v s xs)
    (noReport : s.isReport = false) (key : v.hashKey = .ok k) :
    (∃ ks, hashKeys xs = .ok ks) ∨ ∃ name, s = .bound name := by
  cases ordered with
  | list => cases key
  | tuple items =>
      obtain ⟨ks, keys, -⟩ := Except.map_ok_iff.mp key
      exact .inl ⟨ks, keys⟩
  | bound p => exact .inr ⟨p.key, rfl⟩
  | all es | any es => exact .inl ⟨_, hashKeys_operands es⟩
  | negation e | rule path e => exact .inl ⟨_, hashKeys_operands [e]⟩
  | ruleSet rs => exact .inl ⟨_, hashKeys_rules rs⟩
  | error path name expected actual =>
      obtain ⟨k, first, key⟩ := Except.bind_ok_iff.mp key
      obtain ⟨l, second, -⟩ := Except.bind_ok_iff.mp key
      exact .inl ⟨[k, l], hashKeys_ok_iff.mpr (.cons first (.cons second .nil))⟩
  | errorSet | result => cases noReport

/-- The key of a value made of items agrees with itself if those of the items do. -/
theorem keysAgree_self_of_parts {s : Shape} {xs : List Value} {k : HashKey}
    (form : v.form = .ordered s xs)
    (parts : ∀ x ∈ xs, ∀ k, x.hashKey = .ok k → x.keysAgree x = true) (key : v.hashKey = .ok k) :
    v.keysAgree v = true := by
  have ordered := isOrdered_of_form form
  cases report : s.isReport with
  | true =>
      have groups : List.Forall₂ Eq xs xs := List.forall₂_same.mpr fun _ _ => rfl
      refine keysAgree_of_reports (fun g h same => ?_) ordered ordered rfl report groups
      obtain ⟨label, errors⟩ := List.cons.inj (Value.tuple.inj same)
      have lengths := congrArg List.length errors
      rw [List.length_map, List.length_map] at lengths
      exact ⟨congrArg Label.text (Value.text.inj label), lengths⟩
  | false =>
      have agree {ks : List HashKey} (keys : hashKeys xs = .ok ks) : PartsAgree xs xs := by
        refine List.forall₂_same.mpr fun x mem => ?_
        obtain ⟨k, key⟩ := exists_hashKeys_iff.mp ⟨ks, keys⟩ x mem
        exact parts x mem k key
      refine (keysAgree_ordered_iff ordered ordered rfl report).mpr ?_
      rcases hashKeys_of_hashKey ordered report key with ⟨ks, keys⟩ | ⟨name, rfl⟩
      · cases s with
        | list n =>
            cases ordered
            cases key
        | bound name => exact .inl (agree keys)
        | _ => exact agree keys
      · cases keys : hashKeys xs with
        | ok ks => exact .inl (agree keys)
        | error f => exact .inr ⟨⟨f, keys⟩, ⟨f, keys⟩, rfl⟩

theorem keysAgree_self_of_entries {ds : List (Value × Value)} {k : HashKey}
    (form : v.form.table? = some ds) (agree : ∀ d ∈ ds, d.1.keysAgree d.1 = true)
    (key : v.hashKey = .ok k) : v.keysAgree v = true :=
  (keysAgree_table_iff form form rfl).mpr
    ⟨⟨k, key⟩, ⟨k, key⟩, rfl, fun d mem => ⟨d, mem, agree d mem⟩⟩

/-- A comparable value is alike to itself, with the same key if it has one. -/
theorem IsComparable.self (comparable : v.IsComparable h) :
    Alike v v ∧ ∀ k, v.hashKey = .ok k → v.keysAgree v = true := by
  induction comparable with
  | atom form =>
      exact ⟨.atom form form (.itself form), fun k key =>
        keysAgree_of_sameAtom (.itself form) key key⟩
  | @ordered v s xs form parts ih =>
      have alikes : List.Forall₂ Alike xs xs := List.forall₂_same.mpr fun x mem => (ih x mem).1
      exact ⟨.of_forall₂ form form alikes, fun k =>
        keysAgree_self_of_parts form fun x mem => (ih x mem).2⟩
  | @table v ds form _ _ keyed _ _ _ ihKeys ihValues =>
      have agree : ∀ d ∈ ds, d.1.keysAgree d.1 = true := by
        intro d mem
        obtain ⟨k, key⟩ := keyed d mem
        exact (ihKeys d mem).2 k key
      have here : ∀ d ∈ ds, ∃ e ∈ ds, LikeKeys d.1 e.1 ∧ Alike d.2 e.2 := fun d mem =>
        ⟨d, mem, ⟨agree d mem, (ihKeys d mem).1⟩, (ihValues d mem).1⟩
      exact ⟨.of_entries form form rfl rfl here here, fun k =>
        keysAgree_self_of_entries form agree⟩

/-! ### Comparisons -/

/-- Values that are comparable come to an answer, which is whether they are alike. -/
def Compares (h : Heap) (v : Value) : Prop :=
  ∀ w : Value, w.IsComparable h → Decides (v.same w) (Alike v w)

theorem equalItems_decides {xs ys : List Value} (each : ∀ x ∈ xs, x.Compares h)
    (comparable : ∀ y ∈ ys, y.IsComparable h) :
    Decides (equalItems xs ys) (List.Forall₂ Alike xs ys) := by
  induction xs generalizing ys with
  | nil =>
      cases ys with
      | nil => exact .of_true .nil
      | cons y ys => exact .of_false nofun
  | cons x xs ih =>
      cases ys with
      | nil => exact .of_false nofun
      | cons y ys =>
          obtain ⟨first, others⟩ := List.forall_mem_cons.mp each
          obtain ⟨head, tail⟩ := List.forall_mem_cons.mp comparable
          exact ((first y head).and fun _ => ih others tail).congr List.forall₂_cons.symm

theorem anyHolds_decides {test : Value → Except Fault Bool} {question : Value → Prop}
    {vs : List Value} (each : ∀ v ∈ vs, Decides (test v) (question v)) :
    Decides (anyHolds test vs) (∃ v ∈ vs, question v) := by
  induction vs with
  | nil => exact .of_false (by simp)
  | cons v vs ih =>
      obtain ⟨first, others⟩ := List.forall_mem_cons.mp each
      exact (first.or fun _ => ih others).congr (by simp)

/-- The first entry of which a test holds, or none. -/
theorem findEntry_decides {test : Value → Except Fault Bool} {question : Value → Prop}
    {es : List (Value × Value)} (each : ∀ e ∈ es, Decides (test e.1) (question e.1)) :
    findEntry test es = .ok Option.none ∧ (∀ e ∈ es, ¬ question e.1) ∨
      ∃ e ∈ es, findEntry test es = .ok (some e.2) ∧ question e.1 := by
  induction es with
  | nil => exact .inl ⟨rfl, List.forall_mem_nil _⟩
  | cons e es ih =>
      obtain ⟨⟨b, answer, iff⟩, others⟩ := List.forall_mem_cons.mp each
      obtain ⟨k, v⟩ := e
      cases b with
      | true =>
          have found : findEntry test ((k, v) :: es) = .ok (some v) := by
            rw [findEntry, answer]
            rfl
          exact .inr ⟨(k, v), List.mem_cons_self, found, iff.mp rfl⟩
      | false =>
          have next : findEntry test ((k, v) :: es) = findEntry test es := by
            rw [findEntry, answer]
            rfl
          rw [next]
          rcases ih others with ⟨missed, no⟩ | ⟨e, mem, found, yes⟩
          · have here : ¬ question k := fun yes => Bool.false_ne_true (iff.mpr yes)
            exact .inl ⟨missed, List.forall_mem_cons.mpr ⟨here, no⟩⟩
          · exact .inr ⟨e, List.mem_cons_of_mem _ mem, found, yes⟩

theorem keyTest_decides (compares : v.Compares h) (comparable : w.IsComparable h) :
    Decides (if v.keysAgree w = true then v.same w else .ok false) (LikeKeys v w) :=
  .ite fun _ => compares w comparable

/-- Among distinct entries only one has a key like another one. -/
theorem eq_of_likeKeys {es : List (Value × Value)} {d e : Value × Value}
    (distinct : es.Pairwise fun d e => ¬ LikeKeys d.1 e.1) (inEs : d ∈ es) (inEs' : e ∈ es)
    (left : LikeKeys v d.1) (right : LikeKeys v e.1) : d = e := by
  by_contra differ
  have symmetric : Std.Symm fun d e : Value × Value => ¬ LikeKeys d.1 e.1 :=
    ⟨fun d e apart like => apart like.symm⟩
  exact distinct.forall inEs inEs' differ (left.symm.trans right)

theorem equalEntries_decides {ds es : List (Value × Value)} (keys : ∀ d ∈ ds, d.1.Compares h)
    (values : ∀ d ∈ ds, d.2.Compares h) (comparableKeys : ∀ e ∈ es, e.1.IsComparable h)
    (comparableValues : ∀ e ∈ es, e.2.IsComparable h)
    (distinct : es.Pairwise fun d e => ¬ LikeKeys d.1 e.1) :
    Decides (equalEntries ds es) (∀ d ∈ ds, ∃ e ∈ es, LikeKeys d.1 e.1 ∧ Alike d.2 e.2) := by
  induction ds with
  | nil => exact .of_true (List.forall_mem_nil _)
  | cons d ds ih =>
      obtain ⟨key, otherKeys⟩ := List.forall_mem_cons.mp keys
      obtain ⟨value, otherValues⟩ := List.forall_mem_cons.mp values
      obtain ⟨k, v⟩ := d
      have rest := ih otherKeys otherValues
      have search : findEntry (fun l => if k.keysAgree l = true then k.same l else .ok false) es =
          .ok Option.none ∧ (∀ e ∈ es, ¬ LikeKeys k e.1) ∨ ∃ e ∈ es, findEntry
            (fun l => if k.keysAgree l = true then k.same l else .ok false) es = .ok (some e.2) ∧
              LikeKeys k e.1 :=
        findEntry_decides fun e mem => keyTest_decides key (comparableKeys e mem)
      rcases search with ⟨missed, no⟩ | ⟨e, inEs, found, like⟩
      · have answer : equalEntries ((k, v) :: ds) es = .ok false :=
          congrArg (· >>= _) missed
        rw [answer]
        refine .of_false fun all => ?_
        obtain ⟨e, inEs, like, -⟩ := all (k, v) List.mem_cons_self
        exact no e inEs like
      · have answer : equalEntries ((k, v) :: ds) es =
            (do if ← v.same e.2 then equalEntries ds es else return false) :=
          congrArg (· >>= _) found
        have here : Alike v e.2 ↔ ∃ e ∈ es, LikeKeys k e.1 ∧ Alike v e.2 := by
          constructor
          · intro alike
            exact ⟨e, inEs, like, alike⟩
          · rintro ⟨e', inEs', like', alike⟩
            rw [eq_of_likeKeys distinct inEs inEs' like like']
            exact alike
        rw [answer, List.forall_mem_cons, ← here]
        exact (value e.2 (comparableValues e inEs)).and fun _ => rest

theorem IsComparable.refusal?_eq_none (comparable : v.IsComparable h) :
    v.refusal? = Option.none := by
  cases comparable with
  | atom _ calm => exact calm
  | ordered form => exact RecordRules.refusal?_eq_none (by rw [form]; exact nofun)
  | table form =>
      refine RecordRules.refusal?_eq_none fun atom => ?_
      rw [atom] at form
      cases form

/-! ### Every comparison comes to an answer -/

theorem same_false_of_unlike (unlike : v.form.kind ≠ w.form.kind) (calm : v.refusal? = Option.none)
    (calm' : w.refusal? = Option.none) : v.same w = .ok false :=
  (if_neg fun identical => unlike (kind_eq_of_identical identical)).trans
    (equal_false_of_unlike unlike calm calm')

theorem same_decides_of_unlike (left : v.IsComparable h) (right : w.IsComparable h)
    (unlike : v.form.kind ≠ w.form.kind) : Decides (v.same w) (Alike v w) := by
  rw [same_false_of_unlike unlike left.refusal?_eq_none right.refusal?_eq_none]
  exact .of_false fun alike => unlike alike.kind

theorem IsComparable.isQuiet (comparable : v.IsComparable h) : v.IsQuiet := by
  intro q number
  have atom := form_of_quantity? number
  cases comparable with
  | atom _ _ quiet => exact quiet q number
  | ordered form => cases atom.symm.trans form
  | table form => rw [atom] at form; cases form

theorem same_decides_of_atoms (left : v.IsComparable h) (right : w.IsComparable h)
    (form : v.form = .atom) (form' : w.form = .atom) : Decides (v.same w) (Alike v w) := by
  have alike : SameAtom v w ↔ Alike v w := ⟨.atom form form', fun alike => (alike.atom_inv form).2⟩
  have same : v.same w = sameOr v w v.equalPlain := by
    unfold Value.same sameOr
    rw [equal_atom form left.refusal?_eq_none right.refusal?_eq_none]
  obtain ⟨b, answer⟩ : Answers (sameOr v w v.equalPlain) := by
    unfold sameOr
    split
    · exact .ok _
    · exact equalPlain_answers left.isQuiet right.isQuiet
  rw [same, answer]
  refine ⟨b, rfl, ?_⟩
  rw [← alike, ← same_iff_sameAtom, answer, Except.ok.injEq]

theorem same_decides_of_ordered {s t : Shape} {xs ys : List Value} (form : v.form = .ordered s xs)
    (form' : w.form = .ordered t ys)
    (items : Decides (equalItems xs ys) (List.Forall₂ Alike xs ys)) :
    Decides (v.same w) (Alike v w) := by
  have alike : s = t ∧ List.Forall₂ Alike xs ys ↔ Alike v w := by
    constructor
    · rintro ⟨rfl, alikes⟩
      exact .of_forall₂ form form' alikes
    · intro alike
      obtain ⟨zs, form'', alikes⟩ := alike.ordered_inv form
      cases form'.symm.trans form''
      exact ⟨rfl, alikes⟩
  rw [same_eq_equal (by rw [form]; exact nofun) (by rw [form]; exact nofun),
    equal_ordered form form']
  exact (Decides.ite fun _ => items).congr alike

section Tables

variable {ds es : List (Value × Value)}

/-- Tables are alike if they are as long and each entry of one has its like in the other: the other
way there is one as well, as the entries are distinct. -/
theorem alike_table_iff (form : v.form.table? = some ds) (form' : w.form.table? = some es)
    (kind : v.form.kind = w.form.kind) (distinct : ds.Pairwise fun d e => ¬ LikeKeys d.1 e.1) :
    (ds.length = es.length ∧ ∀ d ∈ ds, ∃ e ∈ es, LikeKeys d.1 e.1 ∧ Alike d.2 e.2) ↔
      Alike v w := by
  constructor
  · rintro ⟨length, there⟩
    have apart : ds.Pairwise fun d d' => ∀ e : Value × Value, LikeKeys d.1 e.1 ∧ Alike d.2 e.2 →
        ¬ (LikeKeys d'.1 e.1 ∧ Alike d'.2 e.2) :=
      distinct.imp fun apart e like like' => apart (like.1.trans like'.1.symm)
    refine .of_entries form form' kind length there fun e inEs => ?_
    obtain ⟨d, inDs, keys, values⟩ := exists_partner apart length.ge there e inEs
    exact ⟨d, inDs, keys.symm, values.symm⟩
  · intro alike
    obtain ⟨fs, tables⟩ := alike.table_inv form
    cases form'.symm.trans tables.form
    exact ⟨tables.length, tables.there⟩

/-- Only a mapping is identical to another one. -/
theorem mapping_of_identical (form : v.form.table? = some ds) (identical : v.identical w = true) :
    ∃ m n, v = .mapping m ∧ w = .mapping n ∧ m.tag = n.tag := by
  unfold Value.identical at identical
  split at identical
  all_goals try cases form
  · exact ⟨_, _, rfl, rfl, eq_of_beq identical⟩
  · cases identical

theorem IsComparable.mapping_known {m : Mapping} (comparable : (mapping m).IsComparable h) :
    m = h.mapping m.tag := by
  cases comparable with
  | atom form | ordered form => cases form
  | table _ _ known => exact known m rfl

theorem same_decides_of_tables (left : v.IsComparable h) (right : w.IsComparable h)
    (form : v.form.table? = some ds) (form' : w.form.table? = some es)
    (kind : v.form.kind = w.form.kind) (readable : v.IsReadable) (readable' : w.IsReadable)
    (distinct : ds.Pairwise fun d e => ¬ LikeKeys d.1 e.1)
    (entries : Decides (equalEntries ds es)
      (∀ d ∈ ds, ∃ e ∈ es, LikeKeys d.1 e.1 ∧ Alike d.2 e.2)) :
    Decides (v.same w) (Alike v w) := by
  by_cases identical : v.identical w = true
  · obtain ⟨m, n, rfl, rfl, tag⟩ := mapping_of_identical form identical
    have one : m = n := by rw [left.mapping_known, right.mapping_known, tag]
    have same : (mapping m).same (.mapping n) = .ok true := if_pos identical
    rw [same, one]
    exact .of_true right.self.1
  · have same : v.same w = v.equal w := if_neg identical
    rw [same, equal_table form form' kind readable readable']
    exact (Decides.ite fun _ => entries).congr (alike_table_iff form form' kind distinct)

end Tables

/-- Comparing comparable values comes to an answer, which is whether they are alike. -/
theorem IsComparable.compares (left : v.IsComparable h) : v.Compares h := by
  have unlike {v : Value} (left : v.IsComparable h) (w : Value) (right : w.IsComparable h)
      (like : v.form.kind = w.form.kind → Decides (v.same w) (Alike v w)) :
      Decides (v.same w) (Alike v w) := by
    by_cases kind : v.form.kind = w.form.kind
    · exact like kind
    · exact same_decides_of_unlike left right kind
  induction left with
  | @atom v form calm quiet known =>
      have left : v.IsComparable h := .atom form calm quiet known
      refine fun w right => unlike left w right fun kind => ?_
      cases form' : w.form with
      | atom => exact same_decides_of_atoms left right form form'
      | _ => rw [form, form'] at kind; cases kind
  | @ordered v s xs form parts ih =>
      refine fun w right => unlike (.ordered form parts) w right fun kind => ?_
      cases right with
      | ordered form' parts' =>
          exact same_decides_of_ordered form form' (equalItems_decides ih parts')
      | atom form' => rw [form, form'] at kind; cases kind
      | table form' =>
          rw [form] at kind
          exact absurd kind.symm (Form.unordered_of_table? form').2
  | @table v ds form readable known keyed distinct keys values ihKeys ihValues =>
      have left : v.IsComparable h := .table form readable known keyed distinct keys values
      refine fun w right => unlike left w right fun kind => ?_
      cases right with
      | table form' readable' known' keyed' distinct' keys' values' =>
          exact same_decides_of_tables left
            (.table form' readable' known' keyed' distinct' keys' values') form form' kind readable
            readable' distinct (equalEntries_decides ihKeys ihValues keys' values' distinct')
      | atom form' =>
          rw [form'] at kind
          exact absurd kind (Form.unordered_of_table? form).1
      | ordered form' =>
          rw [form'] at kind
          exact absurd kind (Form.unordered_of_table? form).2

/-! ### Values of some kinds -/

theorem IsComparable.entries {ds : List (Value × Value)} (comparable : v.IsComparable h)
    (form : v.form = .entries ds) : v.IsReadable ∧ ∀ d ∈ ds, d.1.IsComparable h := by
  cases comparable with
  | atom form' => cases form.symm.trans form'
  | ordered form' => cases form.symm.trans form'
  | table form' readable _ _ _ keys =>
      rw [form] at form'
      cases form'
      exact ⟨readable, keys⟩

section Sets

variable {f g : Bool} {xs ys : List Value}

theorem IsComparable.members (comparable : (set f xs).IsComparable h) :
    (∀ x ∈ xs, x.IsComparable h) ∧ (∀ x ∈ xs, ∃ k, x.hashKey = .ok k) ∧
      xs.Pairwise fun x y => ¬ LikeKeys x y := by
  cases comparable with
  | atom form | ordered form => cases form
  | table form _ _ keyed distinct keys =>
      cases form
      rw [List.forall_mem_map] at keyed keys
      exact ⟨keys, keyed, List.pairwise_map.mp distinct⟩

end Sets

end Comparable

end Value

end RecordRules
