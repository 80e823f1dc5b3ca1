import RecordRules.Proofs.Number.Digits
import RecordRules.Proofs.Predicate.Classification
import RecordRules.Value.Display

/-!
Numbers and their texts.

An integer is written with its digits and a decimal number in one of three layouts: a zero, a point
and the digits after some zeros, the digits with a point among them, or the digits with zeros after
them, and each may carry an exponent. All of it is a numeral (`isNumeral_showInt`,
`isNumeral_text`). So the type predicate does not tell an exact number from its text
(`Value.satisfies_written`).
-/

namespace RecordRules

open Number

/-! ### Parts of written numbers -/

theorem isDigits_digits (n : Nat) : IsDigits (digits n) := by
  intro c mem
  have ascii : c.isDigit = true := isDigit_of_mem_digits n c mem
  have inside : 48 ≤ c.toNat ∧ c.toNat ≤ 57 := by
    simpa [Char.isDigit, UInt32.le_iff_toNat_le] using ascii
  have block : ∀ k < 10, Text.isDigit (48 + k) = true := by decide
  have digit := block (c.toNat - 48) (by omega)
  rwa [Nat.add_sub_cancel' inside.1] at digit

theorem isDigits_zeros (count : Nat) : IsDigits (List.replicate count '0') := by
  intro c mem
  rw [List.eq_of_mem_replicate mem]
  decide

theorem IsDigits.append {ds es : List Char} (first : IsDigits ds) (second : IsDigits es) :
    IsDigits (ds ++ es) :=
  List.forall_mem_append.mpr ⟨first, second⟩

theorem IsDigits.sublist {ds es : List Char} (digits : IsDigits ds) (part : es.Sublist ds) :
    IsDigits es :=
  fun c mem => digits c (part.subset mem)

theorem isSign_minus (negative : Bool) : IsSign (if negative then "-" else "").toList := by
  cases negative with
  | true => exact .minus
  | false => exact .none

theorem isPower_showSigned (k : Int) : IsPower ("E" ++ showSigned k).toList := by
  have sign : IsSign (if k < 0 then "-" else "+").toList := by
    split_ifs
    · exact .minus
    · exact .plus
  have power : IsPower ('E' :: ((if k < 0 then "-" else "+").toList ++ digits k.natAbs)) :=
    .given (.inr rfl) sign (isDigits_digits _) (digits_ne_nil _)
  simpa [showSigned, showNat] using power

theorem isNumeral_showInt (i : Int) : IsNumeral (showInt i).toList := by
  have whole : IsMantissa (digits i.natAbs) := .whole (isDigits_digits _) (digits_ne_nil _)
  have numeral {s : List Char} (sign : IsSign s) : IsNumeral (s ++ (digits i.natAbs ++ [])) :=
    .intro sign whole .none
  rw [showInt]
  split_ifs
  · simpa [showNat] using numeral .minus
  · simpa [showNat] using numeral .none

/-! ### The layouts of decimal numbers -/

namespace Number.Decimal

/-- How many digits would stand before the point if there were no exponent. -/
def left (c : Nat) (e : Int) : Int :=
  e + (digits c).length

/-- How many digits stand before the point. -/
def place (c : Nat) (e : Int) : Int :=
  if e ≤ 0 ∧ -6 < left c e then left c e else 1

/-- Digits with a point after a number of them, which may be negative or beyond the last digit. -/
def layout (ds : List Char) (place : Int) : List Char :=
  if place ≤ 0 then '0' :: '.' :: (List.replicate (-place).toNat '0' ++ ds)
  else if (ds.length : Int) ≤ place then ds ++ List.replicate (place - ds.length).toNat '0'
  else ds.take place.toNat ++ '.' :: ds.drop place.toNat

/-- A number is written as its digits with a point, and with an exponent if the point is moved. -/
theorem toList_showDigits (c : Nat) (e : Int) :
    (showDigits c e).toList = layout (digits c) (place c e) ++
      if left c e = place c e then [] else ("E" ++ showSigned (left c e - place c e)).toList := by
  have body : (if place c e ≤ 0 then
        "0." ++ String.ofList (List.replicate (-place c e).toNat '0' ++ digits c)
      else if ((digits c).length : Int) ≤ place c e then
        String.ofList (digits c ++ List.replicate (place c e - (digits c).length).toNat '0')
      else String.ofList ((digits c).take (place c e).toNat) ++ "." ++
        String.ofList ((digits c).drop (place c e).toNat)).toList =
      layout (digits c) (place c e) := by
    rw [layout]
    split_ifs
    · simp
    · simp
    · simp
  rw [← body]
  by_cases unmoved : left c e = place c e
  · rw [if_pos unmoved, List.append_nil]
    exact congrArg String.toList (if_pos unmoved)
  · rw [if_neg unmoved, ← String.toList_append, ← String.append_assoc]
    exact congrArg String.toList (if_neg unmoved)

theorem isMantissa_layout {ds : List Char} (digits : IsDigits ds) (some : ds ≠ []) (place : Int) :
    IsMantissa (layout ds place) := by
  rw [layout]
  split_ifs with before after
  · have zero : IsDigits ['0'] := isDigits_zeros 1
    exact .pointed zero ((isDigits_zeros _).append digits) (.inl (by simp))
  · exact .whole (digits.append (isDigits_zeros _)) (by simp [some])
  · have first : ds.take place.toNat ≠ [] := by
      rw [Ne, List.take_eq_nil_iff]
      rintro (nothing | nothing)
      · omega
      · exact some nothing
    exact .pointed (digits.sublist (List.take_sublist _ _)) (digits.sublist (List.drop_sublist _ _))
      (.inl first)

theorem isNumeral_text (negative : Bool) (c : Nat) (e : Int) :
    IsNumeral (text (.finite negative c e)).toList := by
  have mantissa := isMantissa_layout (isDigits_digits c) (digits_ne_nil c) (place c e)
  have power : IsPower
      (if left c e = place c e then [] else ("E" ++ showSigned (left c e - place c e)).toList) := by
    split_ifs
    · exact .none
    · exact isPower_showSigned _
  rw [text, String.toList_append, toList_showDigits]
  exact .intro (isSign_minus negative) mantissa power

end Number.Decimal

/-! ### Numbers and their texts in the table -/

namespace Value

/-- An integer or a finite decimal number. -/
inductive IsExact : Value → Prop where
  | int (i : Int) : IsExact (.int i)
  | decimal (tag : Nat) (negative : Bool) (c : Nat) (e : Int) :
      IsExact (.decimal tag (.finite negative c e))

theorem IsExact.isNumeral {v : Value} (exact : v.IsExact) : IsNumeral (v.write .shown).toList := by
  cases exact with
  | int i => exact isNumeral_showInt i
  | decimal tag negative c e => exact Number.Decimal.isNumeral_text negative c e

theorem IsExact.accepted {v : Value} (exact : v.IsExact) :
    v.family.accepted = Family.numericClasses := by
  cases exact with
  | int i => rfl
  | decimal tag negative c e => rfl

/-- **A number and its text are the same to the table.** The text of an integer or of a finite
decimal number is numeric, also between blanks. For each class of the table the type predicate
answers alike for the number and for both texts, and it accepts the numeric classes. -/
theorem satisfies_written {v : Value} (exact : v.IsExact) {u w : String}
    (before : Text.isBlankText u = true) (after : Text.isBlankText w = true) :
    ∀ text ∈ [v.write .shown, u ++ v.write .shown ++ w],
      isNumericText text = true ∧ (ofString text).family = .numericString ∧
      ∀ t ∈ Family.known, ∃ answer,
        v.satisfies (.type t) = .ok answer ∧ (ofString text).satisfies (.type t) = .ok answer ∧
        Builtin.type.test v [.type t] = .ok answer ∧
        Builtin.type.test (ofString text) [.type t] = .ok answer ∧
        (answer = true ↔ t ∈ Family.numericClasses) := by
  intro text mem
  have core : Text.strip text.toList = (v.write .shown).toList := by
    have bare : Text.strip (v.write .shown).toList = (v.write .shown).toList :=
      exact.isNumeral.unbroken.strip_eq
    rcases List.mem_pair.mp mem with rfl | rfl
    · exact bare
    · rw [Text.strip_padded before after, bare]
  have trims : Text.Trims (Label.plain text).text.toList (v.write .shown).toList :=
    Text.strip_eq_iff.mp core
  have numeric : (ofString text).family = .numericString :=
    (family_eq_iff trims).2.1.mpr exact.isNumeral
  refine ⟨isNumeral_iff.mpr (core ▸ exact.isNumeral), numeric, fun t known => ?_⟩
  have number : v.satisfies (.type t) = .ok (Family.numericClasses.contains t) := by
    rw [satisfies_of_known known, exact.accepted]
  have written : (ofString text).satisfies (.type t) = .ok (Family.numericClasses.contains t) := by
    rw [satisfies_of_known known, numeric]
    rfl
  exact ⟨_, number, written, number, written, List.contains_iff_mem⟩

/-- A negative zero with nine decimal places is written with an exponent, and between blanks it
satisfies the integers as the number does. -/
theorem satisfies_written_zero :
    (decimal 0 (.finite true 0 (-9))).write .shown = "-0E-9" ∧
      isNumericText "\n-0E-9\u2003" = true ∧
      (ofString "\n-0E-9\u2003").satisfies (.type .int) = .ok true := by
  have shown : (decimal 0 (.finite true 0 (-9))).write .shown = "-0E-9" := by decide
  have exact : IsExact (decimal 0 (.finite true 0 (-9))) := .decimal 0 true 0 (-9)
  have before : Text.isBlankText "\n" = true := by decide
  have after : Text.isBlankText "\u2003" = true := by decide
  have written := satisfies_written exact before after "\n-0E-9\u2003" (by rw [shown]; decide)
  obtain ⟨numeric, -, alike⟩ := written
  obtain ⟨answer, -, satisfied, -, -, listed⟩ := alike .int (by decide)
  rw [listed.mpr (by decide)] at satisfied
  exact ⟨shown, numeric, satisfied⟩

end Value

end RecordRules
