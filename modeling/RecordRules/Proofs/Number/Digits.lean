import Mathlib.Logic.Function.Defs
import Mathlib.Tactic.SplitIfs
import RecordRules.Number.Digits

/-!
Numbers and their digits.

A natural number is read back from its digits, so different numbers have different texts
(`showNat_injective`), and so have different integers (`showInt_injective`).
-/

namespace RecordRules

namespace Number

def readNat? (text : String) : Option Nat :=
  if !text.isEmpty && text.toList.all fun c => Text.isAsciiDigit c.toNat then
    some (ofDigits text.toList)
  else none

/-! ### Natural numbers -/

section

variable (n : Nat)

theorem digits_ne_nil : digits n ≠ [] :=
  Nat.toDigits_ne_nil

theorem isDigit_of_mem_digits : ∀ c ∈ digits n, c.isDigit = true := by
  intro c mem
  exact Nat.isDigit_of_mem_toDigits (by decide) (by decide) mem

@[simp] theorem toList_showNat : (showNat n).toList = digits n :=
  String.toList_ofList

theorem isDigit_of_mem_showNat : ∀ c ∈ (showNat n).toList, c.isDigit = true := by
  rw [toList_showNat]
  exact isDigit_of_mem_digits n

theorem showNat_ne_empty : showNat n ≠ "" := by
  rw [Ne, ← String.toList_eq_nil_iff, toList_showNat]
  exact digits_ne_nil n

theorem readNat?_showNat : readNat? (showNat n) = some n := by
  have digits : (showNat n).toList.all (fun c => Text.isAsciiDigit c.toNat) = true := by
    refine List.all_eq_true.mpr fun c mem => ?_
    have digit := isDigit_of_mem_showNat n c mem
    simpa [Char.isDigit, Text.isAsciiDigit, UInt32.le_iff_toNat_le] using digit
  have some : (showNat n).isEmpty = false := by simpa using showNat_ne_empty n
  rw [readNat?, digits, some, toList_showNat]
  exact congrArg Option.some Nat.ofDigitChars_ten_toDigits

theorem showNat_injective : Function.Injective showNat := by
  intro m n same
  have read := readNat?_showNat m
  rw [same, readNat?_showNat] at read
  exact (Option.some.inj read).symm

end

/-! ### Integers -/

/-- An integer is written with digits and a minus alone. -/
theorem mem_showInt {i : Int} {c : Char} (mem : c ∈ (showInt i).toList) :
    c = '-' ∨ c.isDigit = true := by
  rw [showInt] at mem
  split at mem
  · rw [String.toList_append] at mem
    rcases List.mem_append.mp mem with sign | digit
    · exact .inl (List.mem_singleton.mp sign)
    · exact .inr (isDigit_of_mem_showNat _ c digit)
  · exact .inr (isDigit_of_mem_showNat _ c mem)

theorem showInt_ne_empty (i : Int) : showInt i ≠ "" := by
  rw [showInt]
  split
  · exact mt String.append_eq_empty_iff.mp fun empty => showNat_ne_empty _ empty.2
  · exact showNat_ne_empty _

/-- No natural number is written with a minus. -/
theorem minus_append_ne_showNat (m n : Nat) : "-" ++ showNat m ≠ showNat n := by
  intro same
  have mem : '-' ∈ (showNat n).toList := by simp [← same]
  cases isDigit_of_mem_showNat n '-' mem

theorem showInt_injective : Function.Injective showInt := by
  intro i j same
  rw [showInt, showInt] at same
  split_ifs at same with negative negative'
  · have digits := showNat_injective (String.append_right_inj _ |>.mp same)
    omega
  · exact absurd same (minus_append_ne_showNat _ _)
  · exact absurd same.symm (minus_append_ne_showNat _ _)
  · have digits := showNat_injective same
    omega

end Number

end RecordRules
