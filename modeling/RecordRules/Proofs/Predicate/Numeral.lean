import RecordRules.Pattern.Reader
import RecordRules.Proofs.Pattern.Language
import RecordRules.Proofs.Predicate.Coercion

/-!
The pattern of numerals.

The grammar of numerals, written as a pattern, is `Numeral.source`, and the reader of patterns makes
the tree `Numeral.root` of it. Between its two anchors the tree is regular, and each of its parts
denotes what a part of the grammar says. The last anchor also holds before a line end that ends the
text. So the pattern matches a text when the text is a numeral or a numeral with a line end
(`Numeral.matchesStart_iff`).
-/

namespace RecordRules

namespace Pattern

/-- Whether a pattern matches from the start of a text, wherever the match ends. -/
def Compiled.matchesStart (p : Compiled) (text : List Char) : Bool :=
  (p.root.run (codes text) p.flags ⟨0, []⟩ some).isSome

/-! ### Classes of characters -/

section Classes

variable {test : Char → Bool} {least : Nat} {most : Option Nat} {word : List Char}

/-- Characters of a class in a row are as many characters that belong to it. -/
theorem repeats_class_iff :
    Repeats (fun w => ∃ d, w = [d] ∧ test d = true) least most word ↔
      (∀ d ∈ word, test d = true) ∧ least ≤ word.length ∧ ∀ m ∈ most, word.length ≤ m := by
  constructor
  · rintro ⟨words, rfl, each, enough, bound⟩
    obtain ⟨ds, rfl, inside⟩ : ∃ ds : List Char, words = ds.map (fun d => [d]) ∧
        ∀ d ∈ ds, test d = true := by
      clear enough bound
      induction words with
      | nil => exact ⟨[], rfl, by simp⟩
      | cons w words ih =>
          obtain ⟨⟨d, rfl, hd⟩, later⟩ := List.forall_mem_cons.mp each
          obtain ⟨ds, rfl, inside⟩ := ih later
          exact ⟨d :: ds, rfl, List.forall_mem_cons.mpr ⟨hd, inside⟩⟩
    have flat : (ds.map fun d => [d]).flatten = ds := by simp [← List.flatMap_def]
    rw [List.length_map] at enough bound
    rw [flat]
    exact ⟨inside, enough, bound⟩
  · rintro ⟨inside, enough, bound⟩
    refine ⟨word.map fun d => [d], by simp [← List.flatMap_def], ?_, by simpa using enough,
      by simpa using bound⟩
    intro w mem
    obtain ⟨d, hd, rfl⟩ := List.mem_map.mp mem
    exact ⟨d, rfl, inside d hd⟩

theorem repeats_optional_iff {language : List Char → Prop} :
    Repeats language 0 (some 1) word ↔ word = [] ∨ language word := by
  constructor
  · rintro ⟨words, rfl, each, -, bound⟩
    have few := bound 1 rfl
    match words with
    | [] => exact .inl rfl
    | [w] =>
        rw [List.flatten_singleton]
        exact .inr (each w List.mem_cons_self)
    | _ :: _ :: _ => simp at few
  · rintro (rfl | h)
    · exact ⟨[], rfl, by simp, Nat.zero_le _, by simp⟩
    · exact ⟨[word], by simp, by simpa using h, Nat.zero_le _, by simp⟩

end Classes

/-! ### The pattern -/

namespace Numeral

def digit : Node := .set false [.named .digit false]

def digits (least : Nat) : Node := .iteration .greedy least none digit

def optional (n : Node) : Node := .iteration .greedy 0 (some 1) n

def captured (g : Nat) (n : Node) : Node := .group (some g) .none .none false n

/-- A plus or a minus or nothing. -/
def sign : Node := optional (.set false [.char '+'.toNat, .char '-'.toNat])

/-- Digits with an optional point and optional digits after it, or a point with digits after it. -/
def mantissa : Node :=
  .choice [
    .sequence [digits 1, optional (captured 2 (.sequence [.char '.'.toNat, digits 0]))],
    .sequence [.char '.'.toNat, digits 1]]

/-- An exponent with its letter. -/
def power : Node := .sequence [.set false [.char 'e'.toNat, .char 'E'.toNat], sign, digits 1]

def root : Node :=
  .sequence [.anchor .lineStart, sign, captured 1 mantissa, optional (captured 3 power),
    .anchor .lineEnd]

def source : String := "^[+-]?(\\d+(\\.\\d*)?|\\.\\d+)([eE][+-]?\\d+)?$"

/-- The pattern of numerals. -/
def pattern : Compiled := ⟨source, .none, 3, root⟩

/-- The pattern is what its source reads as. -/
theorem read_source : Compiled.read source [] = .ok pattern := by
  decide +kernel

variable {word : List Char}

theorem denotes_digit_iff :
    digit.Denotes .none word ↔ ∃ d, word = [d] ∧ Text.isDigit d.toNat = true := by
  rw [digit, denotes_set_iff]
  simp [Item.holds, CharClass.holds, Flags.none]

theorem denotes_digits_iff {least : Nat} :
    (digits least).Denotes .none word ↔ IsDigits word ∧ least ≤ word.length := by
  have digitwise : Node.Denotes .none digit = fun w => ∃ d, w = [d] ∧ Text.isDigit d.toNat = true :=
    funext fun w => propext denotes_digit_iff
  rw [digits, denotes_iteration_iff, digitwise, repeats_class_iff]
  simp [IsDigits]

theorem denotes_captured_iff {g : Nat} {n : Node} :
    (captured g n).Denotes .none word ↔ n.Denotes .none word :=
  denotes_group_iff

theorem denotes_optional_iff {n : Node} :
    (optional n).Denotes .none word ↔ word = [] ∨ n.Denotes .none word :=
  denotes_iteration_iff.trans repeats_optional_iff

theorem denotes_letter_iff {c : Char} : (Node.char c.toNat).Denotes .none word ↔ word = [c] := by
  rw [denotes_char_iff]
  simp [Flags.fold, Flags.none, Char.toNat_inj]

theorem denotes_pair_iff {a b : Char} :
    (Node.set false [.char a.toNat, .char b.toNat]).Denotes .none word ↔
      word = [a] ∨ word = [b] := by
  rw [denotes_set_iff]
  simp [Item.holds, Flags.variants, Flags.none, Char.toNat_inj, and_or_left, exists_or]

theorem denotes_sign_iff : sign.Denotes .none word ↔ IsSign word := by
  rw [sign, denotes_optional_iff, denotes_pair_iff]
  constructor
  · rintro (rfl | rfl | rfl)
    · exact .none
    · exact .plus
    · exact .minus
  · rintro (_ | _ | _)
    · exact .inl rfl
    · exact .inr (.inl rfl)
    · exact .inr (.inr rfl)

theorem denotes_two_iff {a b : Node} :
    (Node.sequence [a, b]).Denotes .none word ↔
      ∃ u v, word = u ++ v ∧ a.Denotes .none u ∧ b.Denotes .none v := by
  simp [denotes_sequence_cons_iff, denotes_sequence_nil_iff]

theorem denotes_pointed_iff {least : Nat} :
    (Node.sequence [.char '.'.toNat, digits least]).Denotes .none word ↔
      ∃ fs, word = '.' :: fs ∧ IsDigits fs ∧ least ≤ fs.length := by
  rw [denotes_two_iff]
  simp only [denotes_letter_iff, denotes_digits_iff]
  simp

theorem denotes_mantissa_iff : mantissa.Denotes .none word ↔ IsMantissa word := by
  have either : mantissa.Denotes .none word ↔
      (∃ ds rest, word = ds ++ rest ∧ (IsDigits ds ∧ 1 ≤ ds.length) ∧
        (rest = [] ∨ ∃ fs, rest = '.' :: fs ∧ IsDigits fs ∧ 0 ≤ fs.length)) ∨
      ∃ fs, word = '.' :: fs ∧ IsDigits fs ∧ 1 ≤ fs.length := by
    rw [mantissa, denotes_choice_iff]
    simp only [List.mem_cons, List.not_mem_nil, or_false, exists_eq_or_imp, exists_eq_left,
      denotes_pointed_iff]
    rw [denotes_two_iff]
    simp only [denotes_digits_iff, denotes_optional_iff, denotes_captured_iff, denotes_pointed_iff]
  rw [either]
  constructor
  · rintro (⟨ds, _, rfl, ⟨digits, some⟩, rfl | ⟨fs, rfl, fraction, -⟩⟩ | ⟨fs, rfl, fraction, some⟩)
    · rw [List.append_nil]
      exact .whole digits (List.ne_nil_of_length_pos some)
    · exact .pointed digits fraction (.inl (List.ne_nil_of_length_pos some))
    · have bare : IsMantissa ([] ++ '.' :: fs) :=
        .pointed nofun fraction (.inr (List.ne_nil_of_length_pos some))
      exact bare
  · rintro (⟨digits, some⟩ | ⟨digits, fraction, some⟩)
    · exact .inl ⟨word, [], by simp, ⟨digits, List.length_pos_iff.mpr some⟩, .inl rfl⟩
    · rename_i ds fs
      cases ds with
      | nil =>
          have some : fs ≠ [] := some.resolve_left fun h => h rfl
          exact .inr ⟨fs, rfl, fraction, List.length_pos_iff.mpr some⟩
      | cons d ds =>
          exact .inl ⟨d :: ds, '.' :: fs, rfl, ⟨digits, by simp⟩, .inr ⟨fs, rfl, fraction, by simp⟩⟩

theorem denotes_power_iff : (optional (captured 3 power)).Denotes .none word ↔ IsPower word := by
  rw [denotes_optional_iff, denotes_captured_iff, power]
  simp only [denotes_sequence_cons_iff, denotes_sequence_nil_iff, denotes_pair_iff,
    denotes_sign_iff, denotes_digits_iff]
  constructor
  · rintro (rfl | ⟨e, _, rfl, letter, s, _, rfl, sign, ds, _, rfl, ⟨digits, some⟩, rfl⟩)
    · exact .none
    · have given : ∀ c : Char, (c = 'e' ∨ c = 'E') → IsPower (c :: (s ++ ds)) := fun c letter =>
        .given letter sign digits (List.ne_nil_of_length_pos some)
      rw [List.append_nil]
      rcases letter with rfl | rfl
      · exact given 'e' (.inl rfl)
      · exact given 'E' (.inr rfl)
  · rintro (_ | ⟨letter, sign, digits, some⟩)
    · exact .inl rfl
    · rename_i e s ds
      refine .inr ⟨[e], s ++ ds, rfl, ?_, s, ds, rfl, sign, ds, [], by simp,
        ⟨digits, List.length_pos_iff.mpr some⟩, rfl⟩
      simpa using letter

theorem isRegular_digits (least : Nat) : (digits least).IsRegular :=
  .iteration nofun (.set _ _)

theorem isRegular_optional {n : Node} (regular : n.IsRegular) : (optional n).IsRegular :=
  .iteration (fun _ _ => Nat.zero_le _) regular

theorem isRegular_sign : sign.IsRegular :=
  isRegular_optional (.set _ _)

theorem isRegular_mantissa : (captured 1 mantissa).IsRegular := by
  have pointed (least : Nat) : (Node.sequence [.char '.'.toNat, digits least]).IsRegular :=
    .sequence (by simp [Node.IsRegular.char, isRegular_digits])
  have optional := isRegular_optional (n := captured 2 _) (.group (pointed 0))
  have spelled : (Node.sequence [digits 1, _]).IsRegular :=
    .sequence (by simpa [isRegular_digits] using optional)
  exact .group (.choice (by simpa using ⟨spelled, pointed 1⟩))

theorem isRegular_power : (optional (captured 3 power)).IsRegular := by
  refine isRegular_optional (.group (.sequence ?_))
  simp [Node.IsRegular.set, isRegular_sign, isRegular_digits]

/-- The last anchor holds at the end of the text and before a line end that ends it. -/
theorem accepts_lineEnd (text : List Char) :
    Accepts text (fun s => Node.runAll (codes text) .none [.anchor .lineEnd] s some)
      fun rest => rest = [] ∨ rest = ['\n'] := by
  intro s inside
  have holds : Anchor.lineEnd.holds .none (codes text) s.position = true ↔
      text.drop s.position = [] ∨ text.drop s.position = ['\n'] := by
    rw [Anchor.holds, size_codes, getElem?_codes]
    have left : (text.drop s.position).length = text.length - s.position := List.length_drop
    cases rest : text.drop s.position with
    | nil =>
        rw [rest, List.length_nil] at left
        have ended : s.position = text.length := by omega
        simp [ended]
    | cons c tail =>
        rw [rest, List.length_cons] at left
        have going : s.position ≠ text.length := by omega
        have last : s.position + 1 = text.length ↔ tail = [] := by
          rw [← List.length_eq_zero_iff]
          omega
        have newline : c.toNat = 0x0a ↔ c = '\n' := Char.toNat_inj (d := '\n')
        simp [Flags.none, going, last, newline]
  refine Iff.trans ?_ holds
  by_cases ends : Anchor.lineEnd.holds .none (codes text) s.position = true
  · simp [Node.runAll, Node.run, ends]
  · simp [Node.runAll, Node.run, ends]

theorem isNumeral_iff_parts :
    IsNumeral word ↔ ∃ s rest, word = s ++ rest ∧ IsSign s ∧
      ∃ m p, rest = m ++ p ∧ IsMantissa m ∧ IsPower p := by
  constructor
  · rintro ⟨sign, mantissa, power⟩
    exact ⟨_, _, rfl, sign, _, _, rfl, mantissa, power⟩
  · rintro ⟨s, _, rfl, sign, m, p, rfl, mantissa, power⟩
    exact .intro sign mantissa power

/-- A numeral matches, alone or with a line end, and nothing else does. -/
theorem matchesStart_iff {text : List Char} :
    pattern.matchesStart text = true ↔
      ∃ word tail, text = word ++ tail ∧ IsNumeral word ∧ (tail = [] ∨ tail = ['\n']) := by
  have signs : Reads text (sign.run (codes text) .none) IsSign :=
    (isRegular_sign.reads text .none).congr fun _ => denotes_sign_iff
  have mantissas : Reads text ((captured 1 mantissa).run (codes text) .none) IsMantissa :=
    (isRegular_mantissa.reads text .none).congr fun _ =>
      denotes_captured_iff.trans denotes_mantissa_iff
  have powers : Reads text ((optional (captured 3 power)).run (codes text) .none) IsPower :=
    (isRegular_power.reads text .none).congr fun _ => denotes_power_iff
  have numerals := (signs.next (mantissas.next powers)).congr fun _ => isNumeral_iff_parts.symm
  -- from the start of the text the first anchor holds
  exact numerals (accepts_lineEnd text) ⟨0, []⟩ (Nat.zero_le _)

end Numeral
end Pattern
end RecordRules
