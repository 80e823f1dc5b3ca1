import RecordRules.Proofs.Value.Form
import RecordRules.Proofs.Value.Plain

/-!
Comparisons that are refused.

Whether two values are equal can be asked of nearly all of them. Not of a signaling not-a-number:
decimal numbers refuse to compare it with a number (`Value.equalPlain_faultsIn`). Collections are
compared by what they hold, so comparing values that are built from some atoms faults only as
comparing two of these atoms does (`Value.BuiltFrom.equal_faultsIn`).
-/

namespace RecordRules

/-! ### Numbers -/

namespace Quantity

theorem isSignaling_of_number {q : Quantity} (number : q.isNan = false) :
    q.isSignaling = false := by
  cases q with
  | nan _ => cases number
  | _ => rfl

theorem isSignaling_ofBinary (x : Number.Binary) : (ofBinary x).isSignaling = false := by
  cases x <;> rfl

theorem equal_faultsIn (p q : Quantity) :
    Except.FaultsIn
      (fun f => f = .refusedComparison ∧ (p.isSignaling = true ∨ q.isSignaling = true))
      (p.equal q) := by
  unfold Quantity.equal
  split
  · rename_i signaling
    exact .error ⟨rfl, by simpa using signaling⟩
  · exact .ok _

end Quantity

namespace Value

theorem complexRealEqual_faultsIn (re im : Number.Binary) (q : Quantity) :
    Except.FaultsIn (fun f => f = .refusedComparison ∧ q.isSignaling = true)
      (complexRealEqual re im q) := by
  unfold complexRealEqual
  split
  · refine (Quantity.equal_faultsIn (.ofBinary re) q).mono fun f => And.imp_right ?_
    intro signaling
    rwa [Quantity.isSignaling_ofBinary, or_iff_right (by decide)] at signaling
  · exact .ok _

/-- A value is not a number that cannot be compared. -/
def IsQuiet (v : Value) : Prop := ∀ q, v.quantity? = some q → q.isSignaling = false

theorem not_isQuiet {v : Value} {q : Quantity} (number : v.quantity? = some q)
    (signaling : q.isSignaling = true) : ¬ v.IsQuiet :=
  fun quiet => nomatch signaling.symm.trans (quiet q number)

/-- Atoms can be compared, unless one of them is a signaling not-a-number. -/
theorem equalPlain_faultsIn (v w : Value) :
    Except.FaultsIn (fun f => f = .refusedComparison ∧ ¬ (v.IsQuiet ∧ w.IsQuiet))
      (v.equalPlain w) := by
  unfold equalPlain
  split
  all_goals try exact .ok _
  -- a complex number on the left, one on the right, and no complex number
  · split
    · rename_i number
      refine (complexRealEqual_faultsIn _ _ _).mono fun f => And.imp_right fun signaling quiet => ?_
      exact not_isQuiet number signaling quiet.2
    · exact .ok _
  · split
    · rename_i number
      refine (complexRealEqual_faultsIn _ _ _).mono fun f => And.imp_right fun signaling quiet => ?_
      exact not_isQuiet number signaling quiet.1
    · exact .ok _
  · split
    · rename_i left right
      refine (Quantity.equal_faultsIn _ _).mono fun f => And.imp_right fun signaling quiet => ?_
      exact signaling.elim (not_isQuiet left · quiet.1) (not_isQuiet right · quiet.2)
    · exact .ok _

/-! ### Collections -/

section Collections

variable {P : Fault → Prop} {v w : Value}

theorem same_faultsIn (equal : Except.FaultsIn P (v.equal w)) : Except.FaultsIn P (v.same w) := by
  unfold same sameOr
  split
  · exact .ok _
  · exact equal

theorem equalItems_faultsIn {vs ws : List Value}
    (each : ∀ v ∈ vs, ∀ w ∈ ws, Except.FaultsIn P (v.same w)) :
    Except.FaultsIn P (equalItems vs ws) := by
  induction vs generalizing ws with
  | nil => cases ws <;> exact .ok _
  | cons v vs ih =>
      cases ws with
      | nil => exact .ok _
      | cons w ws =>
          refine .bind (each v List.mem_cons_self w List.mem_cons_self) fun same _ => ?_
          split
          · exact ih fun v inVs w inWs =>
              each v (List.mem_cons_of_mem _ inVs) w (List.mem_cons_of_mem _ inWs)
          · exact .ok _

theorem anyHolds_faultsIn {test : Value → Except Fault Bool} {vs : List Value}
    (each : ∀ v ∈ vs, Except.FaultsIn P (test v)) : Except.FaultsIn P (anyHolds test vs) := by
  intro f fault
  have stop : (.error f : Except Fault Bool) ≠ .ok false := nofun
  obtain ⟨before, v, after, rfl, -, here⟩ := (anyHolds_eq_iff stop).mp fault
  exact each v (List.mem_append_right _ List.mem_cons_self) f here

theorem findEntry_faultsIn {test : Value → Except Fault Bool} {entries : List (Value × Value)}
    (each : ∀ e ∈ entries, Except.FaultsIn P (test e.1)) :
    Except.FaultsIn P (findEntry test entries) := by
  induction entries with
  | nil => exact .ok _
  | cons entry entries ih =>
      obtain ⟨first, others⟩ := List.forall_mem_cons.mp each
      refine .bind first fun holds _ => ?_
      split
      · exact .ok _
      · exact ih others

/-- What is found among entries is the value of one of them. -/
theorem mem_of_findEntry {test : Value → Except Fault Bool} {entries : List (Value × Value)}
    (found : findEntry test entries = .ok (some w)) : ∃ e ∈ entries, e.2 = w := by
  induction entries with
  | nil => cases found
  | cons entry entries ih =>
      obtain ⟨holds, -, found⟩ := Except.bind_ok_iff.mp found
      cases holds with
      | true =>
          cases found
          exact ⟨entry, List.mem_cons_self, rfl⟩
      | false =>
          obtain ⟨e, mem, value⟩ := ih found
          exact ⟨e, List.mem_cons_of_mem _ mem, value⟩

/-- Members and keys are compared where their own keys agree. -/
theorem keyTest_faultsIn (compared : v.keysAgree w = true → Except.FaultsIn P (v.same w)) :
    Except.FaultsIn P (if v.keysAgree w = true then v.same w else .ok false) := by
  split
  · exact compared ‹_›
  · exact .ok _

theorem equalMembers_faultsIn {vs ws : List Value}
    (each : ∀ v ∈ vs, ∀ w ∈ ws, v.keysAgree w = true → Except.FaultsIn P (v.same w)) :
    Except.FaultsIn P (equalMembers vs ws) := by
  induction vs with
  | nil => exact .ok _
  | cons v vs ih =>
      obtain ⟨first, others⟩ := List.forall_mem_cons.mp each
      have search := anyHolds_faultsIn fun w mem => keyTest_faultsIn (first w mem)
      refine .bind search fun holds _ => ?_
      split
      · exact ih others
      · exact .ok _

theorem equalEntries_faultsIn {xs ys : List (Value × Value)}
    (keys : ∀ d ∈ xs, ∀ e ∈ ys, Except.FaultsIn P (d.1.same e.1))
    (values : ∀ d ∈ xs, ∀ e ∈ ys, Except.FaultsIn P (d.2.same e.2)) :
    Except.FaultsIn P (equalEntries xs ys) := by
  induction xs with
  | nil => exact .ok _
  | cons d xs ih =>
      obtain ⟨key, otherKeys⟩ := List.forall_mem_cons.mp keys
      obtain ⟨value, otherValues⟩ := List.forall_mem_cons.mp values
      obtain ⟨k, v⟩ := d
      have search : Except.FaultsIn P (findEntry
          (fun l => if k.keysAgree l = true then k.same l else .ok false) ys) :=
        findEntry_faultsIn fun e mem => keyTest_faultsIn fun _ => key e mem
      refine .bind search fun found h => ?_
      cases found with
      | none => exact .ok _
      | some w =>
          obtain ⟨e, mem, rfl⟩ := mem_of_findEntry h
          refine .bind (value e mem) fun same _ => ?_
          split
          · exact ih otherKeys otherValues
          · exact .ok _

end Collections

/-! ### Values that are built from atoms -/

/-- A value that holds no others and with which comparing is not a fault in itself. -/
structure IsCalm (v : Value) : Prop where
  form : v.form = .atom
  calm : v.refusal? = Option.none

section Built

variable {P : Fault → Prop} {atom : Value → Prop} {v w : Value}

/-- An atom is not equal to a value that holds others. -/
theorem IsCalm.equal_left (isCalm : v.IsCalm) (compound : w.form ≠ .atom) :
    v.equal w = .ok false := by
  refine equal_false_of_unlike (fun kind => ?_) isCalm.calm (refusal?_eq_none compound)
  rw [isCalm.form] at kind
  exact compound (Form.eq_atom_of_kind kind.symm)

theorem IsCalm.equal_right (isCalm : w.IsCalm) (compound : v.form ≠ .atom) :
    v.equal w = .ok false := by
  refine equal_false_of_unlike (fun kind => ?_) (refusal?_eq_none compound) isCalm.calm
  rw [isCalm.form] at kind
  exact compound (Form.eq_atom_of_kind kind)

theorem BuiltFrom.refusal?_eq_none (calm : ∀ x, atom x → x.IsCalm) (built : v.BuiltFrom atom) :
    v.refusal? = Option.none := by
  cases built with
  | atom isAtom => exact (calm v isAtom).calm
  | _ => rfl

/-- Comparing values that are built from atoms faults only as comparing two of these atoms does. -/
theorem BuiltFrom.equal_faultsIn (calm : ∀ x, atom x → x.IsCalm)
    (atoms : ∀ x y, atom x → atom y → Except.FaultsIn P (x.equalPlain y)) (left : v.BuiltFrom atom)
    (right : w.BuiltFrom atom) : Except.FaultsIn P (v.equal w) := by
  -- Only two collections of one kind are compared by what they hold, so the other value is taken
  -- apart after the one that the induction is on.
  have no {v w : Value} (no : v.equal w = .ok false) : Except.FaultsIn P (v.equal w) := no ▸ .ok _
  induction left generalizing w with
  | @atom v isAtom =>
      cases right with
      | atom isAtom' =>
          rw [equal_atom (calm v isAtom).form (calm v isAtom).calm (calm w isAtom').calm]
          exact atoms v w isAtom isAtom'
      | _ => exact no ((calm v isAtom).equal_left nofun)
  | list _ ih =>
      cases right with
      | atom isAtom => exact no ((calm w isAtom).equal_right nofun)
      | list each =>
          rw [equal]
          split
          · exact equalItems_faultsIn fun v inVs w inWs => same_faultsIn (ih v inVs (each w inWs))
          · exact .ok _
      | _ => exact .ok _
  | tuple _ ih =>
      cases right with
      | atom isAtom => exact no ((calm w isAtom).equal_right nofun)
      | tuple each =>
          exact equalItems_faultsIn fun v inVs w inWs => same_faultsIn (ih v inVs (each w inWs))
      | _ => exact .ok _
  | set frozen _ ih =>
      cases right with
      | atom isAtom => exact no ((calm w isAtom).equal_right nofun)
      | set _ each =>
          rw [equal]
          split
          · exact equalMembers_faultsIn fun v inVs w inWs _ =>
              same_faultsIn (ih v inVs (each w inWs))
          · exact .ok _
      | _ => exact .ok _
  | dict readOnly _ _ ihKeys ihValues =>
      cases right with
      | atom isAtom => exact no ((calm w isAtom).equal_right nofun)
      | dict _ keys values =>
          rw [equal]
          split
          · exact equalEntries_faultsIn
              (fun d inXs e inYs => same_faultsIn (ihKeys d inXs (keys e inYs)))
              (fun d inXs e inYs => same_faultsIn (ihValues d inXs (values e inYs)))
          · exact .ok _
      | _ => exact .ok _

theorem BuiltFrom.same_faultsIn (calm : ∀ x, atom x → x.IsCalm)
    (atoms : ∀ x y, atom x → atom y → Except.FaultsIn P (x.equalPlain y)) (left : v.BuiltFrom atom)
    (right : w.BuiltFrom atom) : Except.FaultsIn P (v.same w) :=
  Value.same_faultsIn (left.equal_faultsIn calm atoms right)

end Built

end Value

end RecordRules
