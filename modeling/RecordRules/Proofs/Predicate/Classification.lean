import RecordRules.Proofs.Predicate.Numeral
import RecordRules.Proofs.Text.Trimming

/-!
The families of text.

What stands between the blanks of a text decides its family. The text is blank if nothing does, and
numeric if what does is a numeral, which is also what the pattern of numerals matches. So blanks
around a text change neither its family nor the classes that it satisfies
(`Value.classifies_text`).
-/

namespace RecordRules

/-! ### Numerals hold no blanks -/

theorem isBlank_of_isDigit {c : Nat} (digit : Text.isDigit c = true) : Text.isBlank c = false := by
  have blocks : ∀ z ∈ Text.decimalZeros, ∀ i < 10, Text.isBlank (z + i) = false := by decide
  obtain ⟨z, listed, inside⟩ : ∃ z ∈ Text.decimalZeros, z ≤ c ∧ c < z + 10 := by
    simpa [Text.isDigit, Text.digitValue?] using digit
  have block := blocks z listed (c - z) (by omega)
  rwa [Nat.add_sub_cancel' inside.1] at block

/-- Characters none of which is a blank. -/
def IsUnbroken (cs : List Char) : Prop :=
  ∀ c ∈ cs, Text.isBlank c.toNat = false

theorem IsUnbroken.append {cs ds : List Char} (first : IsUnbroken cs) (second : IsUnbroken ds) :
    IsUnbroken (cs ++ ds) :=
  List.forall_mem_append.mpr ⟨first, second⟩

theorem IsUnbroken.strip_eq {cs : List Char} (unbroken : IsUnbroken cs) : Text.strip cs = cs :=
  Text.strip_eq_self (fun c mem => unbroken c (List.mem_of_mem_head? mem))
    fun c mem => unbroken c (List.mem_of_mem_getLast? mem)

theorem IsDigits.unbroken {cs : List Char} (digits : IsDigits cs) : IsUnbroken cs :=
  fun c mem => isBlank_of_isDigit (digits c mem)

theorem IsSign.unbroken {cs : List Char} (sign : IsSign cs) : IsUnbroken cs := by
  cases sign with
  | none => exact nofun
  | plus | minus => exact List.forall_mem_singleton.mpr (by decide)

theorem IsMantissa.unbroken {cs : List Char} (mantissa : IsMantissa cs) : IsUnbroken cs := by
  cases mantissa with
  | whole digits => exact digits.unbroken
  | pointed digits fraction =>
      exact digits.unbroken.append (List.forall_mem_cons.mpr ⟨by decide, fraction.unbroken⟩)

theorem IsPower.unbroken {cs : List Char} (power : IsPower cs) : IsUnbroken cs := by
  cases power with
  | none => exact nofun
  | given letter sign digits =>
      refine List.forall_mem_cons.mpr ⟨?_, sign.unbroken.append digits.unbroken⟩
      rcases letter with rfl | rfl
      · decide
      · decide

theorem IsNumeral.unbroken {cs : List Char} (numeral : IsNumeral cs) : IsUnbroken cs := by
  obtain ⟨sign, mantissa, power⟩ := numeral
  exact sign.unbroken.append (mantissa.unbroken.append power.unbroken)

theorem IsNumeral.ne_nil {cs : List Char} (numeral : IsNumeral cs) : cs ≠ [] := by
  obtain ⟨sign, mantissa, power⟩ := numeral
  cases mantissa with
  | whole digits some => simp [some]
  | pointed => simp

/-- A text without blanks at its ends is matched by the pattern of numerals if it is one: it does
not end with the line end that the last anchor of the pattern lets pass. -/
theorem matchesStart_iff_of_trims {cs core : List Char} (trims : Text.Trims cs core) :
    Pattern.Numeral.pattern.matchesStart core = true ↔ IsNumeral core := by
  rw [Pattern.Numeral.matchesStart_iff]
  constructor
  · rintro ⟨word, tail, rfl, numeral, rfl | rfl⟩
    · rwa [List.append_nil]
    · have newline := trims.last '\n' (by simp)
      exact absurd newline (by decide)
  · intro numeral
    exact ⟨core, [], (List.append_nil core).symm, numeral, .inl rfl⟩

namespace Value

/-! ### The family of a text -/

/-- What stands between the blanks of a text decides its family. -/
theorem family_of_trims {label : Label} {core : List Char}
    (trims : Text.Trims label.text.toList core) :
    (text label).family =
      if core = [] then .blank else if isNumeral core = true then .numericString else .string := by
  have found : Text.strip label.text.toList = core := Text.strip_eq_iff.mpr trims
  have blank : Text.isBlankText label.text = true ↔ core = [] := by
    rw [Text.isBlankText_iff, ← Text.strip_eq_nil_iff, found]
  simp only [family, blank, isNumericText, found]

/-- A text is of one of three families, by what stands between its blanks. -/
theorem family_eq_iff {label : Label} {core : List Char}
    (trims : Text.Trims label.text.toList core) :
    ((text label).family = .blank ↔ core = []) ∧
    ((text label).family = .numericString ↔ IsNumeral core) ∧
    ((text label).family = .string ↔ core ≠ [] ∧ ¬ IsNumeral core) := by
  rw [family_of_trims trims]
  by_cases empty : core = []
  · have noNumeral : ¬ IsNumeral core := fun numeral => numeral.ne_nil empty
    simp [empty, empty ▸ noNumeral]
  · by_cases numeral : IsNumeral core
    · simp [empty, numeral, isNumeral_iff.mpr numeral]
    · simp [empty, numeral, mt isNumeral_iff.mp numeral]

theorem family_text_eq {label other : Label}
    (same : Text.strip label.text.toList = Text.strip other.text.toList) :
    (text label).family = (text other).family := by
  have trims := Text.trims_strip label.text.toList
  rw [family_of_trims trims, family_of_trims (same ▸ Text.trims_strip other.text.toList)]

/-! ### The classes of a text -/

mutual

/-- Two values that belong to the same classes are instances of the same things, if they are no
validators. -/
theorem isInstance_eq {v w : Value} (classes : ∀ c, v.isA c = w.isA c)
    (plain : ∀ name rules settings,
      v.isInstance (.validatorClass name rules settings) =
        w.isInstance (.validatorClass name rules settings)) :
    ∀ target, v.isInstance target = w.isInstance target := by
  intro target
  cases target with
  | type c => exact congrArg Except.ok (classes c)
  | validatorClass name rules settings => exact plain name rules settings
  | tuple targets => exact isInstanceOfAny_eq classes plain targets
  | _ => rfl
termination_by structural target => target

theorem isInstanceOfAny_eq {v w : Value} (classes : ∀ c, v.isA c = w.isA c)
    (plain : ∀ name rules settings,
      v.isInstance (.validatorClass name rules settings) =
        w.isInstance (.validatorClass name rules settings)) :
    ∀ targets, v.isInstanceOfAny targets = w.isInstanceOfAny targets
  | [] => rfl
  | target :: rest => by
      rw [isInstanceOfAny, isInstanceOfAny, isInstance_eq classes plain target,
        isInstanceOfAny_eq classes plain rest]
termination_by structural targets => targets

end

/-- Two values with one family that are instances of the same things satisfy the same classes. -/
theorem satisfies_eq {v w target : Value} (families : v.family = w.family)
    (instances : v.isInstance target = w.isInstance target) :
    v.satisfies target = w.satisfies target := by
  cases target with
  | type c =>
      have classes : v.isA c = w.isA c := Except.ok.inj instances
      simp only [satisfies, families, classes]
  | _ => simp only [satisfies, families, instances]

/-- Two texts are instances of the same things, if one is a name only when the other is. -/
theorem isInstance_text_eq {label other : Label} {target : Value}
    (alike : (text label).isA .predicateName = (text other).isA .predicateName) :
    (text label).isInstance target = (text other).isInstance target := by
  have classes : ∀ c, (text label).isA c = (text other).isA c := by
    intro c
    cases c with
    | predicateName => exact alike
    | _ => rfl
  exact isInstance_eq classes (fun _ _ _ => rfl) target

/-- A class other than that of names does not tell a name from its text. -/
theorem isInstance_name_eq {label other : Label} {target : Value} (isClass : target.isClass = true)
    (noName : target ≠ .type .predicateName) :
    (text label).isInstance target = (text other).isInstance target := by
  cases target with
  | type c =>
      cases c with
      | predicateName => exact absurd rfl noName
      | _ => rfl
  | validatorClass => rfl
  | _ => cases isClass

/-! ### Blanks around a text -/

/-- Text between blanks. -/
def between (u w : String) (label : Label) : Value :=
  ofString (u ++ label.text ++ w)

theorem family_between {u w : String} (before : Text.isBlankText u = true)
    (after : Text.isBlankText w = true) (label : Label) :
    (between u w label).family = (text label).family :=
  family_text_eq (Text.strip_padded before after label.text)

/-- **The family of a text is exact.** Any text has a core, what is left of it without the blanks at
its ends. The text is blank if all its characters are, which is to say that the core is empty. Else
it is numeric if its core is a numeral and a plain string if not, and the pattern of numerals, read
from its source, matches the core in the first case alone. Blanks around the text do not change its
family, and no class or other target tells the text from that with blanks, but for the class of
names when the text is a name. -/
theorem classifies_text (label : Label) :
    ((text label).family = .blank ↔ ∀ c ∈ label.text.toList, Text.isBlank c.toNat = true) ∧
    (∃ core, Text.Trims label.text.toList core ∧
      ((text label).family = .blank ↔ core = []) ∧
      ((text label).family = .numericString ↔ IsNumeral core) ∧
      ((text label).family = .string ↔ core ≠ [] ∧ ¬ IsNumeral core) ∧
      ∃ pattern, Pattern.Compiled.read Pattern.Numeral.source [] = .ok pattern ∧
        (pattern.matchesStart core = true ↔ IsNumeral core)) ∧
    ∀ u w : String, Text.isBlankText u = true → Text.isBlankText w = true →
      (between u w label).family = (text label).family ∧
      ∀ target, (∃ s, label = .plain s) ∨ (target.isClass = true ∧ target ≠ .type .predicateName) →
        (between u w label).satisfies target = (text label).satisfies target ∧
        Builtin.type.test (between u w label) [target] =
          Builtin.type.test (text label) [target] := by
  have trims := Text.trims_strip label.text.toList
  obtain ⟨blank, numeric, string⟩ := family_eq_iff trims
  refine ⟨blank.trans Text.strip_eq_nil_iff, ⟨_, trims, blank, numeric, string, _,
    Pattern.Numeral.read_source, matchesStart_iff_of_trims trims⟩, ?_⟩
  intro u w before after
  have families := family_between before after label
  refine ⟨families, fun target untold => ?_⟩
  have instances : (between u w label).isInstance target = (text label).isInstance target := by
    rcases untold with ⟨s, rfl⟩ | ⟨isClass, noName⟩
    · exact isInstance_text_eq rfl
    · exact isInstance_name_eq isClass noName
  have satisfied := satisfies_eq families instances
  exact ⟨satisfied, satisfied⟩

/-- A numeral with digits of two scripts, a point without a fraction and a negative exponent is
numeric between blanks, and it is an object as it was. -/
theorem classifies_text_mixed :
    Text.isBlankText "\t" = true ∧ Text.isBlankText "\u3000\n" = true ∧
      (between "\t" "\u3000\n" (.plain "+\u06614.e-07\n")).family = .numericString ∧
      (between "\t" "\u3000\n" (.plain "+\u06614.e-07\n")).satisfies (.type .object) =
        .ok true := by
  have before : Text.isBlankText "\t" = true := by decide
  have after : Text.isBlankText "\u3000\n" = true := by decide
  obtain ⟨-, -, padded⟩ := classifies_text (.plain "+\u06614.e-07\n")
  obtain ⟨families, alike⟩ := padded _ _ before after
  obtain ⟨satisfied, -⟩ := alike (.type .object) (.inl ⟨_, rfl⟩)
  exact ⟨before, after, families.trans (by decide), satisfied.trans rfl⟩

/-- An exponent needs digits. -/
example : (ofString "+14.e-").family = .string := by decide

end Value

end RecordRules
