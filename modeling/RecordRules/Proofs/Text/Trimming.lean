import Mathlib.Data.List.DropRight
import Mathlib.Data.List.TakeWhile
import RecordRules.Text.Blank

/-!
Text without the blanks around it.

`Trims` says what is left of a text when the blanks at both ends are taken away: it neither starts
nor ends with a blank. Every text is trimmed to one thing, which is what `strip` finds
(`strip_eq_iff`), and blanks put around a text change nothing about it (`strip_between`).
-/

namespace RecordRules.Text

/-- Blanks, and nothing else. -/
def IsBlanks (cs : List Char) : Prop :=
  ∀ c ∈ cs, isBlank c.toNat = true

/-- What is left of a text without the blanks at its ends. -/
structure Trims (cs core : List Char) : Prop where
  around : ∃ u w, IsBlanks u ∧ IsBlanks w ∧ cs = u ++ (core ++ w)
  first : ∀ c ∈ core.head?, isBlank c.toNat = false
  last : ∀ c ∈ core.getLast?, isBlank c.toNat = false

theorem strip_eq (cs : List Char) :
    strip cs = (cs.dropWhile fun c => isBlank c.toNat).rdropWhile fun c => isBlank c.toNat :=
  rfl

/-- Blanks around a text are stripped with its own. -/
theorem strip_between {u w : List Char} (before : IsBlanks u) (after : IsBlanks w)
    (cs : List Char) : strip (u ++ (cs ++ w)) = strip cs := by
  rw [strip_eq, strip_eq, List.dropWhile_append_of_pos before, List.dropWhile_append]
  split
  · rename_i blank
    have gone : w.dropWhile (fun c => isBlank c.toNat) = [] := List.dropWhile_eq_nil_iff.mpr after
    rw [gone, List.isEmpty_iff.mp blank]
  · rw [List.rdropWhile, List.reverse_append, List.dropWhile_append_of_pos]
    · rfl
    · intro c mem
      exact after c (List.mem_reverse.mp mem)

/-- Text that neither starts nor ends with a blank is left as it is. -/
theorem strip_eq_self {core : List Char} (first : ∀ c ∈ core.head?, isBlank c.toNat = false)
    (last : ∀ c ∈ core.getLast?, isBlank c.toNat = false) : strip core = core := by
  have kept : core.dropWhile (fun c => isBlank c.toNat) = core := by
    cases core with
    | nil => rfl
    | cons c cs => rw [List.dropWhile_cons_of_neg (by simp [first c rfl])]
  rw [strip_eq, kept, List.rdropWhile_eq_self_iff]
  intro some
  exact Bool.eq_false_iff.mp (last _ (List.getLast?_eq_some_getLast some))

theorem trims_strip (cs : List Char) : Trims cs (strip cs) := by
  set blank : Char → Bool := fun c => isBlank c.toNat
  have split : cs.takeWhile blank ++ (strip cs ++ (cs.dropWhile blank).rtakeWhile blank) = cs := by
    rw [strip_eq, List.rdropWhile_append_rtakeWhile, List.takeWhile_append_dropWhile]
  refine ⟨⟨_, _, ?_, ?_, split.symm⟩, ?_, ?_⟩
  · intro c mem
    exact (List.mem_takeWhile_imp mem : blank c = true)
  · intro c mem
    exact (List.mem_rtakeWhile_imp mem : blank c = true)
  · intro c mem
    -- what is left of the text without its first blanks starts as that does, if anything is left
    obtain ⟨rest, tail⟩ : strip cs <+: cs.dropWhile blank := List.rdropWhile_prefix _ _
    have head : c ∈ (cs.dropWhile blank).head? := by
      rw [← tail]
      exact List.mem_head?_append_of_mem_head? mem
    have outside := List.head?_dropWhile_not blank cs
    rw [Option.mem_def.mp head] at outside
    exact outside
  · intro c mem
    obtain ⟨some, rfl⟩ := List.mem_getLast?_eq_getLast mem
    exact Bool.eq_false_iff.mpr (List.rdropWhile_last_not _ _ some)

/-- A text has one way to be trimmed, and `strip` finds it. -/
theorem strip_eq_iff {cs core : List Char} : strip cs = core ↔ Trims cs core := by
  constructor
  · rintro rfl
    exact trims_strip cs
  · rintro ⟨⟨u, w, before, after, rfl⟩, first, last⟩
    rw [strip_between before after, strip_eq_self first last]

/-- Nothing is left of blanks alone. -/
theorem strip_eq_nil_iff {cs : List Char} : strip cs = [] ↔ IsBlanks cs := by
  constructor
  · intro nothing
    obtain ⟨⟨u, w, before, after, split⟩, -⟩ := strip_eq_iff.mp nothing
    rw [split, List.nil_append]
    exact List.forall_mem_append.mpr ⟨before, after⟩
  · intro blanks
    exact strip_eq_iff.mpr ⟨⟨cs, [], blanks, nofun, (List.append_nil cs).symm⟩, nofun, nofun⟩

theorem isBlankText_iff {s : String} : isBlankText s = true ↔ IsBlanks s.toList :=
  List.all_eq_true

theorem strip_padded {u w : String} (before : isBlankText u = true) (after : isBlankText w = true)
    (s : String) : strip (u ++ s ++ w).toList = strip s.toList := by
  rw [String.toList_append, String.toList_append, List.append_assoc]
  exact strip_between (isBlankText_iff.mp before) (isBlankText_iff.mp after) s.toList

end RecordRules.Text
