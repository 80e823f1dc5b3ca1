import RecordRules.Text.Blank

/-!
Text that is joined and split again.

Splitting reads a text from the left and keeps the part at hand in reverse. A segment without any
character of the separator is read into that part as a whole (`splitParts_segment`), and a separator
ends it (`splitParts_separator`), however many characters the separator has. So parts that are
joined by a separator, none of whose characters they hold, are what the joined text is split into
(`splitOn_intercalate`).

Where any text is cut is a matter of first occurrences: `Cuts` takes the part before the first
separator and goes on after it. A separator of several characters can occur twice with a common
stretch, and then only the first occurrence counts. A text is cut in one way (`Cuts.unique`), and
that is how it is split (`splitOn_eq_iff`).
-/

namespace RecordRules.Text

section Parts

variable {sep : List Char}

/-- The rest of a separator is passed over. -/
theorem splitParts_pass (passed part rest : List Char) :
    splitParts sep passed.length part (passed ++ rest) = splitParts sep 0 part rest := by
  induction passed with
  | nil => rfl
  | cons c passed ih => exact ih

/-- A separator ends the part at hand. -/
theorem splitParts_separator (nonempty : sep ≠ []) (part rest : List Char) :
    splitParts sep 0 part (sep ++ rest) = part.reverse :: splitParts sep 0 [] rest := by
  obtain ⟨c, cs, rfl⟩ := List.exists_cons_of_ne_nil nonempty
  have here : (c :: cs).isPrefixOf (c :: (cs ++ rest)) = true :=
    List.isPrefixOf_iff_prefix.mpr (List.prefix_append (c :: cs) rest)
  rw [List.cons_append, splitParts, here]
  exact congrArg (part.reverse :: ·) (splitParts_pass cs [] rest)

/-- No separator starts at a character that it does not hold. -/
theorem isPrefixOf_of_not_mem (nonempty : sep ≠ []) {c : Char} (other : c ∉ sep)
    (rest : List Char) : sep.isPrefixOf (c :: rest) = false := by
  obtain ⟨d, ds, rfl⟩ := List.exists_cons_of_ne_nil nonempty
  have differ : (d == c) = false := by
    refine beq_eq_false_iff_ne.mpr fun same => other ?_
    exact same ▸ List.mem_cons_self
  rw [List.isPrefixOf_cons_cons, differ, Bool.false_and]

/-- Characters that the separator does not hold are read into the part at hand. -/
theorem splitParts_segment (nonempty : sep ≠ []) {segment : List Char}
    (apart : ∀ c ∈ segment, c ∉ sep) (part rest : List Char) :
    splitParts sep 0 part (segment ++ rest) =
      splitParts sep 0 (segment.reverse ++ part) rest := by
  induction segment generalizing part with
  | nil => rfl
  | cons c segment ih =>
      obtain ⟨first, others⟩ := List.forall_mem_cons.mp apart
      rw [List.cons_append, splitParts, isPrefixOf_of_not_mem nonempty first, Bool.and_false,
        if_neg Bool.false_ne_true, ih others, List.reverse_cons, List.append_assoc]
      rfl

/-- Parts that are joined by a separator are split at it again. -/
theorem splitParts_intercalate (nonempty : sep ≠ []) {parts : List (List Char)}
    (some : parts ≠ []) (apart : ∀ part ∈ parts, ∀ c ∈ part, c ∉ sep) :
    splitParts sep 0 [] (sep.intercalate parts) = parts := by
  induction parts with
  | nil => exact absurd rfl some
  | cons part others ih =>
      obtain ⟨here, later⟩ := List.forall_mem_cons.mp apart
      cases others with
      | nil =>
          have whole := splitParts_segment nonempty here [] []
          rw [List.append_nil, List.append_nil] at whole
          rw [List.intercalate_singleton, whole, splitParts, List.reverse_reverse]
      | cons next others =>
          have rest := ih (List.cons_ne_nil _ _) later
          rw [List.intercalate_cons_cons, List.append_assoc, splitParts_segment nonempty here,
            splitParts_separator nonempty, List.append_nil, List.reverse_reverse, rest]

end Parts

/-- A segment of a path: it is not empty, and it holds no character of the separator. -/
structure IsSegment (separator segment : String) : Prop where
  nonempty : segment ≠ ""
  apart : ∀ c ∈ segment.toList, c ∉ separator.toList

-- The characters of the segment are gone through, where the instance for a bounded statement may
-- go through all characters there are.
instance (separator segment : String) : Decidable (IsSegment separator segment) :=
  decidable_of_iff (segment ≠ "" ∧ segment.toList.all fun c => c ∉ separator.toList)
    ⟨fun h => ⟨h.1, by simpa using h.2⟩, fun h => ⟨h.nonempty, by simpa using h.apart⟩⟩

/-- Segments that are joined by a separator are what the joined text is split into. -/
theorem splitOn_intercalate {separator : String} (nonempty : separator ≠ "")
    {segments : List String} (some : segments ≠ []) (each : ∀ s ∈ segments, IsSegment separator s) :
    splitOn separator (separator.intercalate segments) = segments := by
  have nonempty : separator.toList ≠ [] := mt String.toList_eq_nil_iff.mp nonempty
  have some : segments.map String.toList ≠ [] := mt List.map_eq_nil_iff.mp some
  have apart : ∀ part ∈ segments.map String.toList, ∀ c ∈ part, c ∉ separator.toList :=
    List.forall_mem_map.mpr fun s mem => (each s mem).apart
  have back : (String.ofList ∘ String.toList : String → String) = id :=
    funext fun s => String.ofList_toList
  rw [splitOn, String.toList_intercalate, splitParts_intercalate nonempty some apart, List.map_map,
    back, List.map_id]

/-! ### Where a text is cut -/

/-- The parts between the occurrences of a separator: the part before the first occurrence, and then
the parts of what follows it. -/
inductive Cuts (sep : List Char) : List Char → List (List Char) → Prop where
  | whole {text : List Char} (never : ¬ sep <:+: text) : Cuts sep text [text]
  | cut {part rest : List Char} {parts : List (List Char)}
      (first : ∀ before after, part ++ sep = before ++ (sep ++ after) → after = [])
      (later : Cuts sep rest parts) : Cuts sep (part ++ (sep ++ rest)) (part :: parts)

section Cuts

variable {sep : List Char}

/-- Two first occurrences of the separator are at one place. -/
theorem eq_nil_of_first {part extra rest rest' : List Char}
    (first : ∀ before after, (part ++ extra) ++ sep = before ++ (sep ++ after) → after = [])
    (same : sep ++ rest = extra ++ (sep ++ rest')) : extra = [] := by
  have starts : sep <+: extra ++ sep := by
    have within : extra ++ sep <+: sep ++ rest := ⟨rest', by rw [same, List.append_assoc]⟩
    refine List.prefix_of_prefix_length_le (List.prefix_append sep rest) within ?_
    simp
  obtain ⟨after, split⟩ := starts
  have ends : after = [] := first part after (by rw [split, List.append_assoc])
  have lengths := congrArg List.length split
  rw [ends] at lengths
  simpa using lengths

/-- A text is cut into its parts in one way. -/
theorem Cuts.unique {text : List Char} {parts parts' : List (List Char)}
    (cuts : Cuts sep text parts) (cuts' : Cuts sep text parts') : parts = parts' := by
  induction cuts generalizing parts' with
  | whole never =>
      cases cuts' with
      | whole _ => rfl
      | @cut part rest _ _ _ => exact absurd ⟨part, rest, List.append_assoc _ _ _⟩ never
  | @cut part rest parts first later ih =>
      generalize same : part ++ (sep ++ rest) = text at cuts'
      cases cuts' with
      | whole never => exact absurd ⟨part, rest, (List.append_assoc _ _ _).trans same⟩ never
      | @cut part' rest' _ first' later' =>
          rcases List.append_eq_append_iff.mp same with ⟨extra, rfl, tail⟩ | ⟨extra, rfl, tail⟩
          · obtain rfl := eq_nil_of_first first' tail
            rw [List.nil_append, List.append_right_inj] at tail
            subst tail
            rw [List.append_nil, ih later']
          · obtain rfl := eq_nil_of_first first tail
            rw [List.nil_append, List.append_right_inj] at tail
            subst tail
            rw [List.append_nil, ih later']

/-- Reading from the left cuts a text at the separator, as long as no separator starts within what
has been read of the part at hand. -/
theorem cuts_splitParts (nonempty : sep ≠ []) (part text : List Char)
    (ahead : ∀ before after, part.reverse ++ text = before ++ (sep ++ after) →
      part.length ≤ before.length) :
    Cuts sep (part.reverse ++ text) (splitParts sep 0 part text) := by
  have positive : 0 < sep.length := List.length_pos_iff.mpr nonempty
  induction length : text.length using Nat.strongRecOn generalizing part text with
  | ind n ih =>
      subst length
      by_cases starts : sep <+: text
      · obtain ⟨rest, rfl⟩ := starts
        rw [splitParts_separator nonempty]
        refine .cut ?_ ?_
        · intro before after same
          have reached := ahead before (after ++ rest) (by
            rw [← List.append_assoc, same]
            simp only [List.append_assoc])
          have lengths := congrArg List.length same
          simp only [List.length_append, List.length_reverse] at lengths
          exact List.length_eq_zero_iff.mp (by omega)
        · exact ih rest.length (by simp; omega) [] rest (fun _ _ _ => Nat.zero_le _) rfl
      · cases text with
        | nil =>
            rw [List.append_nil, splitParts]
            refine .whole ?_
            rintro ⟨before, after, same⟩
            have reached := ahead before after (by rw [← same, List.append_nil, List.append_assoc])
            have lengths := congrArg List.length same
            simp only [List.length_append, List.length_reverse] at lengths
            omega
        | cons c rest =>
            have here : sep.isPrefixOf (c :: rest) = false :=
              Bool.eq_false_iff.mpr fun h => starts (List.isPrefixOf_iff_prefix.mp h)
            rw [splitParts, here, Bool.and_false, if_neg Bool.false_ne_true]
            have shifted : part.reverse ++ c :: rest = (c :: part).reverse ++ rest := by simp
            rw [shifted]
            refine ih rest.length (by simp) (c :: part) rest ?_ rfl
            intro before after same
            have reached := ahead before after (shifted.trans same)
            -- a separator right at the character at hand has just been excluded
            refine Nat.lt_of_le_of_ne reached fun level => starts ?_
            have aligned := List.append_inj (shifted.trans same) (by simpa using level)
            exact ⟨after, aligned.2.symm⟩

theorem splitParts_eq_iff (nonempty : sep ≠ []) {text : List Char} {parts : List (List Char)} :
    splitParts sep 0 [] text = parts ↔ Cuts sep text parts := by
  have cuts : Cuts sep text (splitParts sep 0 [] text) :=
    cuts_splitParts nonempty [] text fun _ _ _ => Nat.zero_le _
  constructor
  · rintro rfl
    exact cuts
  · exact cuts.unique

end Cuts

/-- A text is cut at a separator into some segments. -/
def IsCutInto (separator text : String) (segments : List String) : Prop :=
  Cuts separator.toList text.toList (segments.map String.toList)

/-- A text is split into the segments that it is cut into, and into nothing else. -/
theorem splitOn_eq_iff {separator : String} (separated : separator ≠ "") {text : String}
    {segments : List String} :
    splitOn separator text = segments ↔ IsCutInto separator text segments := by
  have nonempty : separator.toList ≠ [] := mt String.toList_eq_nil_iff.mp separated
  rw [IsCutInto, ← splitParts_eq_iff nonempty, splitOn]
  constructor
  · rintro rfl
    rw [List.map_map]
    exact (List.map_id _).symm.trans (List.map_congr_left fun _ _ => String.toList_ofList.symm)
  · intro parts
    rw [parts, List.map_map]
    exact (List.map_congr_left fun _ _ => String.ofList_toList).trans (List.map_id _)

end RecordRules.Text
