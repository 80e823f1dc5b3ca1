import RecordRules.Config.Settings
import RecordRules.Proofs.Evaluation.Pass
import RecordRules.Proofs.Path
import RecordRules.Proofs.Text.Splitting

/-!
Which paths are accepted.

The path of a rule is looked at twice: when the rule is made, where it is cut at dots, and when the
rule is evaluated, where it is cut at the separator of the evaluator, unless paths are keys as a
whole. Neither look knows of the other. A path that is not blank gets through both exactly when it
is gapless at dots and, where paths are walked, at the separator too (`Config.accepts_gapless`). So
a key with two dots in a row is no path of a rule even where it would be looked up as it is
(`Config.not_accepts_dots`).
-/

namespace RecordRules

/-- No segment that a text is cut into at a separator is empty. -/
def Text.IsGapless (separator text : String) : Prop :=
  ∀ segments, Text.IsCutInto separator text segments → "" ∉ segments

theorem Text.isGapless_iff {separator text : String} (separated : separator ≠ "") :
    Text.IsGapless separator text ↔ hasEmptySegment separator text = false := by
  rw [← Bool.not_eq_true, hasEmptySegment_eq_true]
  constructor
  · intro gapless
    exact gapless _ ((Text.splitOn_eq_iff separated).mp rfl)
  · intro full segments cut
    rw [← (Text.splitOn_eq_iff separated).mpr cut]
    exact full

variable {path : Label}

/-- A path that is not blank makes a rule unless it has a gap between dots. -/
theorem Rule.make_text (filled : Text.isBlankText path.text = false) (e : Expr) :
    Rule.make (.text path) (.expr e) =
      if hasEmptySegment "." path.text then
        .error (.ofPath (.text path) "contains an empty segment")
      else .ok ⟨path, e⟩ := by
  have checked : Label.ofPath (.text path) =
      if hasEmptySegment "." path.text then
        .error (.ofPath (.text path) "contains an empty segment")
      else .ok path := by
    rw [Label.ofPath, filled]
    rfl
  rw [make, checked]
  split
  · rfl
  · rfl

/-- Settings that can be read have a separator that is not empty. -/
theorem Settings.separator_of_read {settings : List (String × Value)} {c : Config}
    (configured : Settings.read settings = .ok c) : c.separator ≠ "" := by
  have given : ∀ {v : Value} {s : String},
      separatorOf "path_separator" v = .ok s → s ≠ "" := by
    intro v s read
    have filled : ∀ (t : String) (p : Problem),
        (if t.isEmpty then Except.error p else .ok t) = .ok s → s ≠ "" := by
      intro t p checked
      split at checked
      · cases checked
      · rename_i some
        cases checked
        exact mt String.isEmpty_iff.mpr some
    unfold separatorOf at read
    split at read
    · exact filled _ _ read
    · split at read
      · exact filled _ _ read
      · cases read
    · cases read
  unfold Settings.read at configured
  dsimp only at configured
  split at configured
  · rename_i separator _ _ read _
    cases configured
    split at read
    · exact given read
    · cases read
      exact String.isEmpty_eq_false_iff.mp rfl
  · cases configured

namespace Config

variable {c : Config}

theorem checkPath_ok_iff (separated : c.separator ≠ "") :
    c.checkPath path = .ok () ↔
      c.nestedPaths = false ∨ Text.IsGapless c.separator path.text := by
  rw [Text.isGapless_iff separated, checkPath, ← Bool.and_eq_false_iff]
  split
  · rename_i gap
    rw [gap]
    exact iff_of_false nofun nofun
  · rename_i full
    exact iff_of_true rfl (Bool.eq_false_iff.mpr full)

/-- **Two looks at a path.** A path that is not blank is accepted for a rule and by an evaluator
exactly when it is gapless at dots, and gapless at the separator too unless paths are keys as a
whole. Each of the two refuses a path for a gap alone, and where paths are walked at dots they
accept the same paths. -/
theorem accepts_gapless (separated : c.separator ≠ "") (filled : Text.isBlankText path.text = false)
    (e : Expr) :
    ((Rule.make (.text path) (.expr e) = .ok ⟨path, e⟩ ∧ c.checkPath path = .ok ()) ↔
      Text.IsGapless "." path.text ∧
        (c.nestedPaths = false ∨ Text.IsGapless c.separator path.text)) ∧
    (∀ f, Rule.make (.text path) (.expr e) = .error f ∨ c.checkPath path = .error f →
      f = .badPath (.text path) (.ofString "contains an empty segment")) ∧
    (c.nestedPaths = true → c.separator = "." →
      (Rule.make (.text path) (.expr e) = .ok ⟨path, e⟩ ↔ c.checkPath path = .ok ())) := by
  have makes : Rule.make (.text path) (.expr e) = .ok ⟨path, e⟩ ↔ Text.IsGapless "." path.text := by
    rw [Text.isGapless_iff (by decide), Rule.make_text filled]
    split
    · rename_i gap
      rw [gap]
      exact iff_of_false nofun nofun
    · rename_i full
      exact iff_of_true rfl (Bool.eq_false_iff.mpr full)
  have passes : c.checkPath path = .ok () ↔
      c.nestedPaths = false ∨ Text.IsGapless c.separator path.text := checkPath_ok_iff separated
  refine ⟨and_congr makes passes, ?_, ?_⟩
  · rintro f (refused | refused)
    · rw [Rule.make_text filled] at refused
      split at refused
      · exact (Except.error.inj refused).symm
      · cases refused
    · exact fault_of_checkPath c refused
  · intro walks dotted
    rw [makes, passes, walks, dotted]
    simp

/-- Of three colons in a row the first two are a separator, so that no segment is empty. -/
theorem accepts_three_colons :
    let c : Config := ⟨true, "::", false⟩
    let path := Label.plain "a:::b.c"
    let e := Expr.bound (.builtin 1 .filled) []
    Settings.read [("path_separator", .ofString "::")] = .ok c ∧ c.separator ≠ "" ∧
      Text.isBlankText path.text = false ∧
      Rule.make (.text path) (.expr e) = .ok ⟨path, e⟩ ∧ c.checkPath path = .ok () := by
  intro c path e
  have configured : Settings.read [("path_separator", .ofString "::")] = .ok c := rfl
  have separated := Settings.separator_of_read configured
  have filled : Text.isBlankText path.text = false := by decide
  have dots : Text.IsGapless "." path.text := (Text.isGapless_iff (by decide)).mpr (by decide)
  have own : Text.IsGapless c.separator path.text := (Text.isGapless_iff separated).mpr (by decide)
  have accepted := (accepts_gapless separated filled e).1.mpr ⟨dots, .inr own⟩
  exact ⟨configured, separated, filled, accepted⟩

/-- Gaplessness at the separator of the evaluator is not enough: a rule refuses two dots in a row
also where paths are keys as a whole. -/
theorem not_accepts_dots : ¬ ∀ (c : Config) (path : Label) (e : Expr), c.separator ≠ "" →
    Text.isBlankText path.text = false →
      ((Rule.make (.text path) (.expr e) = .ok ⟨path, e⟩ ∧ c.checkPath path = .ok ()) ↔
        (c.nestedPaths = false ∨ Text.IsGapless c.separator path.text)) := by
  intro accepts
  have accepted := (accepts ⟨false, ".", false⟩ (.plain "a..b") (.bound (.builtin 1 .filled) [])
    (by decide) (by decide)).mpr (.inl rfl)
  have refused : Rule.make (.text (.plain "a..b")) (.expr (.bound (.builtin 1 .filled) [])) =
      .error (.badPath (.ofString "a..b") (.ofString "contains an empty segment")) := rfl
  cases refused.symm.trans accepted.1

end Config

end RecordRules
