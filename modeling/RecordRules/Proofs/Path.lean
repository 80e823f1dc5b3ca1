import RecordRules.Path
import RecordRules.Proofs.Outcome

/-!
Paths that a rule can have.
-/

namespace RecordRules

/-- A text can be the path of a rule: it is not blank, and no segment between dots is empty. -/
structure IsPath (text : String) : Prop where
  notBlank : Text.isBlankText text = false
  segments : ∀ segment ∈ Text.splitOn "." text, segment ≠ ""

theorem hasEmptySegment_eq_false {separator text : String} :
    hasEmptySegment separator text = false ↔
      ∀ segment ∈ Text.splitOn separator text, segment ≠ "" := by
  unfold hasEmptySegment
  rw [List.any_eq_false]
  refine forall_congr' fun segment => imp_congr_right fun _ => not_congr ?_
  exact String.isEmpty_iff

theorem hasEmptySegment_eq_true {separator text : String} :
    hasEmptySegment separator text = true ↔ "" ∈ Text.splitOn separator text := by
  rw [hasEmptySegment, List.any_eq_true]
  simp only [String.isEmpty_iff, exists_eq_right]

/-- A label passes as the path of a rule exactly when its text can be one, and it stays as it is. -/
theorem Label.ofPath_ok_iff {label l : Label} :
    Label.ofPath (.text label) = .ok l ↔ IsPath label.text ∧ l = label := by
  unfold Label.ofPath
  constructor
  · intro h
    dsimp only at h
    split at h
    · exact nomatch h
    · rename_i notBlank
      split at h
      · exact nomatch h
      · rename_i segments
        refine ⟨⟨?_, ?_⟩, (Except.ok.inj h).symm⟩
        · exact Bool.eq_false_iff.mpr notBlank
        · exact hasEmptySegment_eq_false.mp (Bool.eq_false_iff.mpr segments)
  · rintro ⟨path, rfl⟩
    have segments := hasEmptySegment_eq_false.mpr path.segments
    simp only [path.notBlank, segments, Bool.false_eq_true, if_false]

end RecordRules
