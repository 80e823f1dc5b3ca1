import Mathlib.Data.List.TakeDrop
import Mathlib.Data.List.TakeWhile
import RecordRules.Predicate.Test

/-!
The type predicate as a table.

The table has one row for each kind of value that converts into another, and for each row the
classes that its values convert to. `Value.InRow` says which values belong to a row, numerals by
the grammar `IsNumeral`, and `Value.satisfies_iff_listed` that the type predicate accepts a value
for a class of the table exactly when the row of the value lists the class.
-/

namespace RecordRules

/-! ### The grammar of numerals -/

/-- Decimal digits of any script. -/
def IsDigits (cs : List Char) : Prop :=
  ∀ c ∈ cs, Text.isDigit c.toNat = true

/-- An optional sign. -/
inductive IsSign : List Char → Prop where
  | none : IsSign []
  | plus : IsSign ['+']
  | minus : IsSign ['-']

/-- Digits, with an optional point among or around them. -/
inductive IsMantissa : List Char → Prop where
  | whole {ds : List Char} (digits : IsDigits ds) (some : ds ≠ []) : IsMantissa ds
  | pointed {ds fs : List Char} (digits : IsDigits ds) (fraction : IsDigits fs)
      (some : ds ≠ [] ∨ fs ≠ []) : IsMantissa (ds ++ '.' :: fs)

/-- An optional exponent. -/
inductive IsPower : List Char → Prop where
  | none : IsPower []
  | given {e : Char} {s ds : List Char} (letter : e = 'e' ∨ e = 'E') (sign : IsSign s)
      (digits : IsDigits ds) (some : ds ≠ []) : IsPower (e :: (s ++ ds))

/-- A numeral: a sign, digits with a point, and an exponent, of which only digits are needed. -/
inductive IsNumeral : List Char → Prop where
  | intro {s m p : List Char} (sign : IsSign s) (mantissa : IsMantissa m) (power : IsPower p) :
      IsNumeral (s ++ (m ++ p))

/-- Text does not start with a character that passes a test. -/
def StartsOutside (test : Char → Bool) (cs : List Char) : Prop :=
  ∀ c ∈ cs.head?, test c = false

theorem span_append {test : Char → Bool} {cs rest : List Char} (inside : ∀ c ∈ cs, test c = true)
    (outside : StartsOutside test rest) : (cs ++ rest).span test = (cs, rest) := by
  rw [List.span_eq_takeWhile_dropWhile, List.takeWhile_append_of_pos inside,
    List.dropWhile_append_of_pos inside]
  cases rest with
  | nil => simp
  | cons c rest =>
      have hc : test c = false := outside c rfl
      simp [hc]

theorem exists_of_span (test : Char → Bool) (cs : List Char) :
    ∃ inside rest, cs.span test = (inside, rest) ∧ cs = inside ++ rest ∧
      ∀ c ∈ inside, test c = true :=
  ⟨cs.takeWhile test, cs.dropWhile test, List.span_eq_takeWhile_dropWhile test cs,
    List.takeWhile_append_dropWhile.symm, fun _ hc => List.mem_takeWhile_imp hc⟩

theorem dropSign_append {sign cs : List Char} (hsign : IsSign sign)
    (outside : StartsOutside (fun c => c == '+' || c == '-') cs) : dropSign (sign ++ cs) = cs := by
  cases hsign with
  | plus | minus => rfl
  | none =>
      cases cs with
      | nil => rfl
      | cons c cs =>
          have hc := outside c rfl
          simp only [Bool.or_eq_false_iff, beq_eq_false_iff_ne, ne_eq] at hc
          rw [List.nil_append]
          unfold dropSign
          split
          · rename_i hcons
            exact absurd (List.cons.inj hcons).1 hc.1
          · rename_i hcons
            exact absurd (List.cons.inj hcons).1 hc.2
          · rfl

theorem exists_sign (cs : List Char) : ∃ sign, IsSign sign ∧ cs = sign ++ dropSign cs := by
  unfold dropSign
  split
  · exact ⟨['+'], .plus, rfl⟩
  · exact ⟨['-'], .minus, rfl⟩
  · exact ⟨[], .none, rfl⟩

theorem IsDigits.startsOutside {ds : List Char} (digits : IsDigits ds) :
    StartsOutside (fun c => c == '+' || c == '-') ds := by
  intro c hc
  have hdigit := digits c (List.mem_of_mem_head? hc)
  by_contra hsign
  simp only [Bool.not_eq_false, Bool.or_eq_true, beq_iff_eq] at hsign
  rcases hsign with rfl | rfl
  all_goals revert hdigit; decide

theorem isExponent_iff {cs : List Char} : isExponent cs = true ↔ IsPower cs := by
  constructor
  · intro h
    cases cs with
    | nil => exact .none
    | cons e rest =>
        simp only [isExponent, Bool.and_eq_true, Bool.or_eq_true, beq_iff_eq, Bool.not_eq_true',
          List.isEmpty_eq_false_iff, List.all_eq_true] at h
        obtain ⟨⟨letter, some⟩, digits⟩ := h
        obtain ⟨sign, hsign, split⟩ := exists_sign rest
        rw [split]
        exact .given letter hsign digits some
  · rintro (_ | ⟨letter, sign, digits, some⟩)
    · rfl
    · simp only [isExponent, dropSign_append sign digits.startsOutside, Bool.and_eq_true,
        Bool.or_eq_true, beq_iff_eq, Bool.not_eq_true', List.isEmpty_eq_false_iff,
        List.all_eq_true]
      exact ⟨⟨letter, some⟩, digits⟩

theorem IsPower.startsOutside {cs : List Char} (power : IsPower cs) :
    StartsOutside (fun c => Text.isDigit c.toNat) cs := by
  intro c hc
  cases power with
  | none => cases hc
  | given letter _ _ _ =>
      obtain rfl : _ = c := Option.some.inj hc
      rcases letter with rfl | rfl <;> decide

theorem IsMantissa.startsOutside {cs : List Char} (mantissa : IsMantissa cs) (rest : List Char) :
    StartsOutside (fun c => c == '+' || c == '-') (cs ++ rest) := by
  intro c hc
  cases mantissa with
  | whole digits some =>
      rw [List.head?_append, List.head?_eq_some_head some] at hc
      exact digits.startsOutside c (by rw [List.head?_eq_some_head some]; exact hc)
  | @pointed ds fs digits _ _ =>
      cases ds with
      | nil =>
          obtain rfl : '.' = c := Option.some.inj hc
          decide
      | cons d ds => exact digits.startsOutside c hc

/-- The test for numerals follows their grammar. -/
theorem isNumeral_iff {cs : List Char} : isNumeral cs = true ↔ IsNumeral cs := by
  constructor
  · intro h
    obtain ⟨sign, hsign, hcs⟩ := exists_sign cs
    obtain ⟨whole, rest, hspan, hwhole, digits⟩ :=
      exists_of_span (fun d => Text.isDigit d.toNat) (dropSign cs)
    rw [hcs, hwhole]
    simp only [isNumeral, hspan] at h
    split at h
    · rename_i rest
      obtain ⟨fraction, power, hspan', hrest, digits'⟩ :=
        exists_of_span (fun d => Text.isDigit d.toNat) rest
      simp only [hspan', Bool.and_eq_true, Bool.or_eq_true, Bool.not_eq_true',
        List.isEmpty_eq_false_iff] at h
      have hpower := isExponent_iff.mp h.2
      have := IsNumeral.intro hsign (.pointed digits digits' h.1) hpower
      rw [hrest]
      simpa only [List.append_assoc, List.cons_append] using this
    · simp only [Bool.and_eq_true, Bool.not_eq_true', List.isEmpty_eq_false_iff] at h
      exact .intro hsign (.whole digits h.1) (isExponent_iff.mp h.2)
  · rintro @⟨_, _, p, hsign, mantissa, power⟩
    have hdrop := dropSign_append hsign (mantissa.startsOutside p)
    simp only [isNumeral, hdrop]
    have hexponent := isExponent_iff.mpr power
    cases mantissa with
    | whole digits some =>
        rw [span_append digits power.startsOutside]
        split
        · rename_i heq
          cases power with
          | none => cases heq
          | given letter _ _ _ =>
              obtain rfl := (List.cons.inj heq).1
              exact absurd letter (by decide)
        · simp only [Bool.and_eq_true, Bool.not_eq_true', List.isEmpty_eq_false_iff]
          exact ⟨some, hexponent⟩
    | pointed digits fraction some =>
        have outside : ∀ rest, StartsOutside (fun c => Text.isDigit c.toNat) ('.' :: rest) := by
          intro rest c hc
          obtain rfl : '.' = c := Option.some.inj hc
          decide
        rw [List.append_assoc, List.cons_append, span_append digits (outside _)]
        simp only [span_append fraction power.startsOutside, Bool.and_eq_true, Bool.or_eq_true,
          Bool.not_eq_true', List.isEmpty_eq_false_iff]
        exact ⟨some, hexponent⟩

/-! ### The table -/

inductive Row where
  | number | word | truth | moment | day | clock | sequence | mapping
deriving DecidableEq, Repr

def Row.targets : Row → List Class
  | .number => [.int, .float, .decimal, .str]
  | .word => [.str]
  | .truth => [.bool]
  | .moment => [.datetime, .date]
  | .day => [.date]
  | .clock => [.time]
  | .sequence => [.list]
  | .mapping => [.dict]

def Row.columns : List Class :=
  [.int, .float, .decimal, .str, .bool, .datetime, .date, .time, .list, .dict]

def Label.IsNumeric (label : Label) : Prop :=
  IsNumeral (Text.strip label.text.toList)

theorem isNumericText_iff {label : Label} : isNumericText label.text = true ↔ label.IsNumeric :=
  isNumeral_iff

namespace Value

/-- The row of a value, if it has one. -/
inductive InRow : Value → Row → Prop where
  | int (i : Int) : InRow (.int i) .number
  | float {x : Number.Binary} (tag : Nat) (finite : x.isFinite = true) :
      InRow (.float tag x) .number
  | decimal {x : Number.Decimal} (tag : Nat) (finite : x.isFinite = true) :
      InRow (.decimal tag x) .number
  | numeral {label : Label} (numeric : label.IsNumeric) : InRow (.text label) .number
  | word {label : Label} (filled : Text.isBlankText label.text = false)
      (plain : ¬ label.IsNumeric) : InRow (.text label) .word
  | bool (b : Bool) : InRow (.bool b) .truth
  | moment (m : Calendar.Moment) : InRow (.moment m) .moment
  | date (d : Calendar.Date) : InRow (.date d) .day
  | time (t : Calendar.Time) : InRow (.time t) .clock
  | list (items : List Value) : InRow (.list items) .sequence
  | tuple (items : List Value) : InRow (.tuple items) .sequence
  | dict (readOnly : Bool) (entries : List (Value × Value)) : InRow (.dict readOnly entries) .mapping
  | mapping (m : Mapping) : InRow (.mapping m) .mapping

/-- A number that is not finite. -/
inductive IsNonFinite : Value → Prop where
  | float {x : Number.Binary} (tag : Nat) (nonFinite : x.isFinite = false) :
      IsNonFinite (.float tag x)
  | decimal {x : Number.Decimal} (tag : Nat) (nonFinite : x.isFinite = false) :
      IsNonFinite (.decimal tag x)

theorem IsNonFinite.not_inRow {v : Value} (nonFinite : v.IsNonFinite) (row : Row) :
    ¬ v.InRow row := by
  intro hrow
  cases nonFinite with
  | float tag nonFinite =>
      cases hrow with
      | float _ finite => exact absurd (finite.symm.trans nonFinite) (by decide)
  | decimal tag nonFinite =>
      cases hrow with
      | decimal _ finite => exact absurd (finite.symm.trans nonFinite) (by decide)

end Value

def Family.row? : Family → Option Row
  | .integer | .float | .decimal | .numericString => some .number
  | .string => some .word
  | .boolean => some .truth
  | .datetime => some .moment
  | .date => some .day
  | .time => some .clock
  | .sequence => some .sequence
  | .mapping => some .mapping
  | .set | .missing | .blank | .nonFinite | .other => none

/-- Among the classes of the table, a family accepts those that its row lists. -/
theorem Family.mem_accepted_iff (family : Family) :
    ∀ t ∈ Row.columns, (t ∈ family.accepted ↔ ∃ row ∈ family.row?, t ∈ row.targets) := by
  cases family <;> decide

theorem Family.known_of_mem_columns : ∀ t ∈ Row.columns, t ∈ Family.known := by
  decide

namespace Value

theorem family_text {label : Label} (filled : Text.isBlankText label.text = false) :
    (Value.text label).family =
      if isNumericText label.text = true then .numericString else .string := by
  simp [family, filled]

/-- The row of a value that is not blank is the row of its family. -/
theorem inRow_iff {v : Value} (filled : v.isBlank = false) {row : Row} :
    v.InRow row ↔ v.family.row? = some row := by
  constructor
  · intro h
    cases h with
    | float tag finite | decimal tag finite => simp [family, finite, Family.row?]
    | numeral numeric =>
        rw [family_text filled, if_pos (isNumericText_iff.mpr numeric)]
        rfl
    | word filled plain =>
        rw [family_text filled, if_neg (fun h => plain (isNumericText_iff.mp h))]
        rfl
    | _ => rfl
  · intro h
    cases v with
    | text label =>
        rw [family_text filled] at h
        by_cases numeric : isNumericText label.text = true
        · rw [if_pos numeric] at h
          obtain rfl := Option.some.inj h
          exact .numeral (isNumericText_iff.mp numeric)
        · rw [if_neg numeric] at h
          obtain rfl := Option.some.inj h
          exact .word filled (fun h => numeric (isNumericText_iff.mpr h))
    | float tag x =>
        cases finite : x.isFinite with
        | true =>
            simp only [family, finite, if_true, Family.row?, Option.some.injEq] at h
            exact h ▸ .float tag finite
        | false => simp [family, finite, Family.row?] at h
    | decimal tag x =>
        cases finite : x.isFinite with
        | true =>
            simp only [family, finite, if_true, Family.row?, Option.some.injEq] at h
            exact h ▸ .decimal tag finite
        | false => simp [family, finite, Family.row?] at h
    | bool | int | date | moment | time | list | tuple | dict | mapping =>
        obtain rfl := Option.some.inj h
        constructor
    | _ => cases h

theorem accepted_of_isBlank {v : Value} (blank : v.isBlank = true) : v.family.accepted = [] := by
  cases v with
  | none | absent => rfl
  | text label =>
      simp only [isBlank] at blank
      simp [family, blank, Family.accepted]
  | _ => cases blank

/-- For a class that the table knows, the family of a value decides. -/
theorem satisfies_of_known {v : Value} {t : Class} (known : t ∈ Family.known) :
    v.satisfies (.type t) = .ok (v.family.accepted.contains t) := by
  unfold satisfies
  split
  · rename_i missing
    simp [missing, Family.accepted]
  · rename_i blank
    simp [blank, Family.accepted]
  · simp only [List.contains_iff_mem.mpr known, if_true]
    rfl

/-- A class of the table is accepted for a value exactly when the value is neither missing nor
blank and the row of the value lists the class. Numbers that are not finite and values without a
row are accepted for none. -/
theorem satisfies_iff_listed (v : Value) (t : Class) (column : t ∈ Row.columns) :
    (∃ answer, v.satisfies (.type t) = .ok answer ∧
      Builtin.type.test v [.type t] = .ok answer ∧
      (answer = true ↔
        v.isMissing = false ∧ v.isBlank = false ∧ ∃ row, v.InRow row ∧ t ∈ row.targets)) ∧
    (v.IsNonFinite → v.satisfies (.type t) = .ok false) ∧
    ((∀ row, ¬ v.InRow row) → v.satisfies (.type t) = .ok false) := by
  have hanswer := satisfies_of_known (v := v) (Family.known_of_mem_columns t column)
  have hlisted : v.family.accepted.contains t = true ↔
      v.isMissing = false ∧ v.isBlank = false ∧ ∃ row, v.InRow row ∧ t ∈ row.targets := by
    cases blank : v.isBlank with
    | true => simp [accepted_of_isBlank blank]
    | false =>
        have present : v.isMissing = false := by
          cases v <;> first | rfl | cases blank
        rw [List.contains_iff_mem, Family.mem_accepted_iff _ t column]
        simp only [present, inRow_iff blank, Option.mem_def, true_and]
  have hunlisted : (∀ row, ¬ v.InRow row) → v.satisfies (.type t) = .ok false := by
    intro unlisted
    rw [hanswer, Except.ok.injEq, ← Bool.not_eq_true, hlisted]
    rintro ⟨_, _, row, hrow, _⟩
    exact unlisted row hrow
  exact ⟨⟨_, hanswer, hanswer, hlisted⟩, fun h => hunlisted h.not_inRow, hunlisted⟩

/-- Text that reads as a numeral satisfies the decimal numbers. -/
theorem satisfies_numeral : Class.decimal ∈ Row.columns ∧
    (ofString " 1.5 ").satisfies (.type .decimal) = .ok true := by
  have column : Class.decimal ∈ Row.columns := by decide
  obtain ⟨⟨answer, hanswer, -, listed⟩, -⟩ := satisfies_iff_listed (ofString " 1.5 ") .decimal column
  have numeral : (ofString " 1.5 ").InRow .number := .numeral (isNumericText_iff.mp (by decide))
  rw [listed.mpr ⟨rfl, by decide, .number, numeral, by decide⟩] at hanswer
  exact ⟨column, hanswer⟩

/-- A set is in no row: present as it is, it does not satisfy the class of lists. -/
theorem satisfies_set_as_list :
    (set false [.int 1]).isMissing = false ∧ (set false [.int 1]).isBlank = false ∧
      (set false [.int 1]).satisfies (.type .list) = .ok false :=
  ⟨rfl, rfl, rfl⟩

end Value

end RecordRules
