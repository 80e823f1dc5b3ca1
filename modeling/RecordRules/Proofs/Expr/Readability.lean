import RecordRules.Proofs.Expr.Tree
import RecordRules.Proofs.Number.Digits
import RecordRules.Proofs.Registry.Lookup
import RecordRules.Proofs.Value.Sameness

/-!
Expressions and their texts.

The text of an operand shows where it ends: a predicate ends with the bracket after its parameters,
a combination by `&` or `|` with the bracket that closes it, and a negation with its operand. So
whatever follows an operand, the text has one reading (`IsSimple.isDelimited`), and operands with a
symbol between them are told apart from those with another one (`joined_append_inj`). Outside of
operands a combination has no brackets, but it goes on where a single operand would have ended. So
the text of an expression determines it, with the grouping of its operands: `literal_eq_iff`.
-/

namespace RecordRules

open Number

/-! ### Parts of texts -/

/-- Where two texts are the same, so are their parts up to the first of some sign, and those after
it. -/
theorem append_cons_inj {stop : Char} {xs ys : List Char} (left : stop ∉ xs) (right : stop ∉ ys)
    {us vs : List Char} (same : xs ++ stop :: us = ys ++ stop :: vs) : xs = ys ∧ us = vs := by
  induction xs generalizing ys with
  | nil =>
      cases ys with
      | nil => exact ⟨rfl, (List.cons.inj same).2⟩
      | cons y ys =>
          rw [(List.cons.inj same).1] at right
          exact absurd List.mem_cons_self right
  | cons x xs ih =>
      cases ys with
      | nil =>
          rw [(List.cons.inj same).1] at left
          exact absurd List.mem_cons_self left
      | cons y ys =>
          obtain ⟨rfl, rest⟩ := List.cons.inj same
          obtain ⟨rfl, follows⟩ :=
            ih (fun mem => left (.tail _ mem)) (fun mem => right (.tail _ mem)) rest
          exact ⟨rfl, follows⟩

/-- No sign of an operator is in the name of a predicate of the library. -/
theorem Builtin.text_plain (b : Builtin) :
    b.text.toList ≠ [] ∧ '(' ∉ b.text.toList ∧ '~' ∉ b.text.toList := by
  cases b <;> decide

/-- So the name of a predicate starts with no such sign. -/
theorem Builtin.text_append_ne (b : Builtin) {sign : Char} (operator : sign = '(' ∨ sign = '~')
    (us vs : List Char) : b.text.toList ++ us ≠ sign :: vs := by
  intro same
  obtain ⟨some, noBracket, noTilde⟩ := b.text_plain
  have mem : sign ∈ b.text.toList := by
    cases name : b.text.toList with
    | nil => exact absurd name some
    | cons c cs =>
        rw [name] at same
        rw [(List.cons.inj same).1]
        exact List.mem_cons_self
  rcases operator with rfl | rfl
  · exact noBracket mem
  · exact noTilde mem

/-! ### Parameters -/

/-- No parameter, or a single one that is an integer. A truth value counts as one. -/
inductive AtMostInteger : List Value → Prop
  | nothing : AtMostInteger []
  | int (i : Int) : AtMostInteger [.int i]
  | bool (b : Bool) : AtMostInteger [.bool b]

def paramsText (params : List Value) : List Char :=
  (", ".intercalate (literals params)).toList

namespace AtMostInteger

variable {params params' : List Value}

theorem bracket_notMem (few : AtMostInteger params) : ')' ∉ paramsText params := by
  cases few with
  | nothing => decide
  | int i =>
      intro mem
      rcases mem_showInt (i := i) mem with sign | digit
      · cases sign
      · cases digit
  | bool b => cases b <;> decide

/-- Only an integer is written as one. -/
theorem eq_of_paramsText_int (few : AtMostInteger params) {i : Int}
    (same : paramsText params = paramsText [.int i]) : params = [.int i] := by
  have same : paramsText params = (showInt i).toList := same
  cases few with
  | nothing => exact absurd (String.toList_eq_nil_iff.mp same.symm) (showInt_ne_empty i)
  | int j =>
      obtain rfl := showInt_injective (String.toList_injective same)
      rfl
  | bool b =>
      have letter : ∃ c ∈ paramsText [.bool b], c ≠ '-' ∧ ¬ c.isDigit = true := by
        cases b with
        | true => exact ⟨'T', by decide, by decide, by decide⟩
        | false => exact ⟨'F', by decide, by decide, by decide⟩
      obtain ⟨c, mem, noMinus, noDigit⟩ := letter
      rw [same] at mem
      rcases mem_showInt mem with minus | digit
      · exact absurd minus noMinus
      · exact absurd digit noDigit

/-- The text of parameters determines them. -/
theorem eq_of_paramsText (few : AtMostInteger params) (few' : AtMostInteger params')
    (same : paramsText params = paramsText params') : params = params' := by
  cases few with
  | int i => exact (few'.eq_of_paramsText_int same.symm).symm
  | nothing =>
      cases few' with
      | nothing => rfl
      | int j => exact eq_of_paramsText_int .nothing same
      | bool c => cases c <;> exact absurd same (by decide)
  | bool b =>
      cases few' with
      | nothing => cases b <;> exact absurd same (by decide)
      | int j => exact eq_of_paramsText_int (.bool b) same
      | bool c =>
          have answers : b = c := by
            revert same
            cases b <;> cases c <;> decide
          rw [answers]

theorem isSame (few : AtMostInteger params) : ∀ v ∈ params, v.IsSame := by
  intro v mem
  cases few with
  | nothing => cases mem
  | int i =>
      obtain rfl := List.mem_singleton.mp mem
      exact Value.isSame_of_atom rfl
  | bool b =>
      obtain rfl := List.mem_singleton.mp mem
      exact Value.isSame_of_atom rfl

end AtMostInteger

/-! ### Simple expressions -/

/-- The expressions of predicates of the library with one integer at most as parameter, and of two
or more operands in each combination by `&` or `|`. -/
inductive Expr.IsSimple : Expr → Prop
  | bound (tag : Nat) (b : Builtin) {params : List Value} (few : AtMostInteger params) :
      IsSimple (.bound (.builtin tag b) params)
  | all {es : List Expr} (several : 2 ≤ es.length) (operands : ∀ e ∈ es, IsSimple e) :
      IsSimple (.all es)
  | any {es : List Expr} (several : 2 ≤ es.length) (operands : ∀ e ∈ es, IsSimple e) :
      IsSimple (.any es)
  | negation {e : Expr} (operand : IsSimple e) : IsSimple (.negation e)

namespace Expr

theorem IsSimple.hasSameParams {e : Expr} (simple : e.IsSimple) : e.HasSameParams := by
  have operands {es : List Expr} (each : ∀ e ∈ es, HasSameParams e) :
      ∀ leaf ∈ leavesOf es, ∀ v ∈ leaf.2, v.IsSame := by
    intro leaf mem
    rw [leavesOf_eq_flatMap] at mem
    obtain ⟨e, inOperands, mem⟩ := List.mem_flatMap.mp mem
    exact each e inOperands leaf mem
  induction simple with
  | bound tag b few =>
      intro leaf mem
      obtain rfl := List.mem_singleton.mp mem
      exact few.isSame
  | all _ _ ih => exact operands ih
  | any _ _ ih => exact operands ih
  | negation _ ih => exact ih

/-- Expressions that are one tree are equal. -/
theorem IsSimple.equal_of_untagged {e f : Expr} (simple : f.IsSimple)
    (tree : e.untagged = f.untagged) : e.equal f = .ok true := by
  rw [← equal_untagged, tree, equal_untagged]
  exact equal_self simple.hasSameParams

/-! ### Texts of operands -/

/-- An expression as an operand, with the brackets that it gets there. -/
def operandText (e : Expr) : List Char := (e.bracket e.literal).toList

/-- Operands after the first one, each after a symbol. -/
def further (symbol : Char) (es : List Expr) : List Char :=
  es.flatMap fun e => ' ' :: symbol :: ' ' :: e.operandText

/-- Operands with a symbol between them. -/
def joined (symbol : Char) : List Expr → List Char
  | [] => []
  | e :: es => e.operandText ++ further symbol es

/-- An expression is a combination of two or more operands, written with a symbol. -/
inductive IsGroup : Char → List Expr → Expr → Prop
  | all {es : List Expr} (several : 2 ≤ es.length) : IsGroup '&' es (.all es)
  | any {es : List Expr} (several : 2 ≤ es.length) : IsGroup '|' es (.any es)

theorem toList_intercalate_operands (symbol : Char) (es : List Expr) :
    ((String.ofList [' ', symbol, ' ']).intercalate (operandLiterals es)).toList =
      joined symbol es := by
  induction es with
  | nil => rfl
  | cons e es ih =>
      cases es with
      | nil => simp [operandLiterals, joined, further, operandText]
      | cons f fs =>
          have rest : operandLiterals (e :: f :: fs) =
              e.bracket e.literal :: operandLiterals (f :: fs) := rfl
          rw [rest, operandLiterals, String.intercalate_cons_cons, ← operandLiterals,
            String.toList_append, ih, String.toList_append, String.toList_ofList]
          simp [joined, further, operandText]

section Group

variable {symbol : Char} {es fs : List Expr} {e f : Expr}

theorem IsGroup.several (group : IsGroup symbol es e) : 2 ≤ es.length := by
  cases group with
  | all several | any several => exact several

theorem IsGroup.toList_literal (group : IsGroup symbol es e) :
    e.literal.toList = joined symbol es := by
  cases group with
  | all => exact toList_intercalate_operands '&' es
  | any => exact toList_intercalate_operands '|' es

theorem IsGroup.operandText (group : IsGroup symbol es e) :
    e.operandText = '(' :: (joined symbol es ++ [')']) := by
  rw [← group.toList_literal]
  cases group with
  | all | any => simp [Expr.operandText, bracket]

theorem IsGroup.untagged (left : IsGroup symbol es e) (right : IsGroup symbol fs f)
    (operands : untaggedAll es = untaggedAll fs) : e.untagged = f.untagged := by
  cases left with
  | all =>
      cases right with
      | all => exact congrArg Expr.all operands
  | any =>
      cases right with
      | any => exact congrArg Expr.any operands

end Group

theorem operandText_bound (tag : Nat) (b : Builtin) (params : List Value) :
    (bound (.builtin tag b) params).operandText =
      b.text.toList ++ '(' :: (paramsText params ++ [')']) := by
  have text : (bound (.builtin tag b) params).operandText =
      (b.text ++ "(" ++ ", ".intercalate (literals params) ++ ")").toList := rfl
  rw [text, paramsText]
  simp

theorem operandText_negation (e : Expr) : (negation e).operandText = '~' :: e.operandText := by
  simp [operandText, bracket, literal]

/-! ### What the first sign says -/

section FirstSign

variable {f : Expr} {us vs : List Char}

/-- A text that starts with the name of a predicate is that of a predicate. -/
theorem IsSimple.of_name (simple : f.IsSimple) {b : Builtin}
    (same : b.text.toList ++ us = f.operandText ++ vs) :
    ∃ tag b' params, f = .bound (.builtin tag b') params ∧ AtMostInteger params := by
  cases simple with
  | bound tag b' few => exact ⟨tag, b', _, rfl, few⟩
  | all several =>
      rw [(IsGroup.all several).operandText] at same
      exact absurd same (b.text_append_ne (.inl rfl) _ _)
  | any several =>
      rw [(IsGroup.any several).operandText] at same
      exact absurd same (b.text_append_ne (.inl rfl) _ _)
  | negation =>
      rw [operandText_negation] at same
      exact absurd same (b.text_append_ne (.inr rfl) _ _)

/-- A text that starts with a bracket is that of a combination. -/
theorem IsSimple.of_bracket (simple : f.IsSimple) (same : '(' :: us = f.operandText ++ vs) :
    ∃ symbol fs, IsGroup symbol fs f ∧ (∀ g ∈ fs, g.IsSimple) ∧
      us = joined symbol fs ++ ')' :: vs := by
  cases simple with
  | bound tag b few =>
      rw [operandText_bound, List.append_assoc] at same
      exact absurd same.symm (b.text_append_ne (.inl rfl) _ _)
  | all several operands =>
      rw [(IsGroup.all several).operandText, List.cons_append, List.append_assoc] at same
      exact ⟨'&', _, .all several, operands, (List.cons.inj same).2⟩
  | any several operands =>
      rw [(IsGroup.any several).operandText, List.cons_append, List.append_assoc] at same
      exact ⟨'|', _, .any several, operands, (List.cons.inj same).2⟩
  | negation =>
      rw [operandText_negation] at same
      exact absurd (List.cons.inj same).1 (by decide)

/-- A text that starts with a tilde is that of a negation. -/
theorem IsSimple.of_tilde (simple : f.IsSimple) (same : '~' :: us = f.operandText ++ vs) :
    ∃ g : Expr, f = .negation g ∧ g.IsSimple ∧ us = g.operandText ++ vs := by
  cases simple with
  | bound tag b few =>
      rw [operandText_bound, List.append_assoc] at same
      exact absurd same.symm (b.text_append_ne (.inr rfl) _ _)
  | all several =>
      rw [(IsGroup.all several).operandText] at same
      exact absurd (List.cons.inj same).1 (by decide)
  | any several =>
      rw [(IsGroup.any several).operandText] at same
      exact absurd (List.cons.inj same).1 (by decide)
  | @negation g operand =>
      rw [operandText_negation] at same
      exact ⟨g, rfl, operand, (List.cons.inj same).2⟩

end FirstSign

/-! ### Unique reading -/

/-- Whatever follows an operand, its text shows which operand it is and where it ends. -/
def IsDelimited (e : Expr) : Prop :=
  ∀ f : Expr, f.IsSimple → ∀ us vs, e.operandText ++ us = f.operandText ++ vs →
    e.untagged = f.untagged ∧ us = vs

section Operands

variable {symbol symbol' : Char} {es fs : List Expr} {us vs : List Char}

/-- Further operands end where a bracket follows instead of another symbol. -/
theorem further_append_inj (delimited : ∀ e ∈ es, e.IsDelimited) (simple : ∀ f ∈ fs, f.IsSimple)
    (same : further symbol es ++ ')' :: us = further symbol' fs ++ ')' :: vs) :
    untaggedAll es = untaggedAll fs ∧ us = vs := by
  induction es generalizing fs with
  | nil =>
      cases fs with
      | nil => exact ⟨rfl, (List.cons.inj same).2⟩
      | cons f fs => exact absurd (List.cons.inj same).1 (by decide)
  | cons e es ih =>
      cases fs with
      | nil => exact absurd (List.cons.inj same).1 (by decide)
      | cons f fs =>
          obtain ⟨here, others⟩ := List.forall_mem_cons.mp delimited
          obtain ⟨here', others'⟩ := List.forall_mem_cons.mp simple
          simp only [further, List.flatMap_cons, List.cons_append, List.cons.injEq,
            List.append_assoc, true_and] at same
          obtain ⟨tree, rest⟩ := here f here' _ _ same.2
          obtain ⟨trees, follows⟩ := ih others others' rest
          exact ⟨by rw [untaggedAll, untaggedAll, tree, trees], follows⟩

/-- Two or more operands in brackets show which they are, and the symbol between them. -/
theorem joined_append_inj (several : 2 ≤ es.length) (delimited : ∀ e ∈ es, e.IsDelimited)
    (several' : 2 ≤ fs.length) (simple : ∀ f ∈ fs, f.IsSimple)
    (same : joined symbol es ++ ')' :: us = joined symbol' fs ++ ')' :: vs) :
    symbol = symbol' ∧ untaggedAll es = untaggedAll fs ∧ us = vs := by
  match es, several, fs, several' with
  | e :: e' :: es, _, f :: f' :: fs, _ =>
      obtain ⟨here, others⟩ := List.forall_mem_cons.mp delimited
      obtain ⟨here', others'⟩ := List.forall_mem_cons.mp simple
      rw [joined, joined, List.append_assoc, List.append_assoc] at same
      obtain ⟨tree, rest⟩ := here f here' _ _ same
      -- the second operands follow their symbols, after a blank each
      have symbols : symbol = symbol' := (List.cons.inj (List.cons.inj rest).2).1
      obtain ⟨trees, follows⟩ := further_append_inj others others' rest
      exact ⟨symbols, by rw [untaggedAll, tree, trees]; rfl, follows⟩

end Operands

/-- A predicate is shown by its name, up to the opening bracket, and its parameters, up to the
closing one. -/
theorem isDelimited_bound (tag : Nat) (b : Builtin) {params : List Value}
    (few : AtMostInteger params) : (bound (.builtin tag b) params).IsDelimited := by
  intro f simple us vs same
  rw [operandText_bound, List.append_assoc] at same
  obtain ⟨tag', b', params', rfl, few'⟩ := simple.of_name same
  rw [operandText_bound, List.append_assoc, List.cons_append, List.cons_append,
    List.append_assoc, List.append_assoc] at same
  obtain ⟨name, rest⟩ := append_cons_inj b.text_plain.2.1 b'.text_plain.2.1 same
  obtain ⟨text, follows⟩ := append_cons_inj few.bracket_notMem few'.bracket_notMem rest
  obtain rfl := Builtin.eq_of_text_eq (String.toList_injective name)
  obtain rfl := few.eq_of_paramsText few' text
  exact ⟨rfl, follows⟩

theorem IsGroup.isDelimited {symbol : Char} {es : List Expr} {e : Expr}
    (group : IsGroup symbol es e) (each : ∀ e ∈ es, IsDelimited e) : e.IsDelimited := by
  intro f simple us vs same
  rw [group.operandText, List.cons_append, List.append_assoc] at same
  obtain ⟨symbol', fs, group', operands, inside⟩ := simple.of_bracket same
  obtain ⟨rfl, trees, follows⟩ :=
    joined_append_inj group.several each group'.several operands inside
  exact ⟨group.untagged group' trees, follows⟩

theorem IsDelimited.negation {e : Expr} (operand : e.IsDelimited) :
    (Expr.negation e).IsDelimited := by
  intro f simple us vs same
  rw [operandText_negation] at same
  obtain ⟨g, rfl, simple', inside⟩ := simple.of_tilde same
  obtain ⟨tree, follows⟩ := operand g simple' us vs inside
  exact ⟨congrArg Expr.negation tree, follows⟩

/-- The text of a simple operand has one reading, whatever follows it. -/
theorem IsSimple.isDelimited {e : Expr} (simple : e.IsSimple) : e.IsDelimited := by
  induction simple with
  | bound tag b few => exact isDelimited_bound tag b few
  | all several _ each => exact (IsGroup.all several).isDelimited each
  | any several _ each => exact (IsGroup.any several).isDelimited each
  | negation _ operand => exact operand.negation

/-! ### Whole expressions -/

section Whole

variable {e f : Expr}

/-- Outside of operands, a combination is written without brackets, and anything else as it would
be as an operand. -/
theorem IsSimple.group_or_single (simple : e.IsSimple) :
    (∃ symbol es, IsGroup symbol es e ∧ ∀ g ∈ es, g.IsSimple) ∨
      e.operandText = e.literal.toList := by
  cases simple with
  | bound | negation => exact .inr rfl
  | all several operands => exact .inl ⟨'&', _, .all several, operands⟩
  | any several operands => exact .inl ⟨'|', _, .any several, operands⟩

/-- A combination goes on after its first operand, so its text is not that of a single one. -/
theorem IsGroup.toList_literal_ne {symbol : Char} {es : List Expr} (group : IsGroup symbol es e)
    (operands : ∀ g ∈ es, g.IsSimple) (simple : f.IsSimple)
    (single : f.operandText = f.literal.toList) : e.literal.toList ≠ f.literal.toList := by
  intro same
  rw [group.toList_literal, ← single] at same
  match es, group.several with
  | g :: g' :: es, _ =>
      have first : g.IsSimple := operands g List.mem_cons_self
      have text : f.operandText ++ [] = g.operandText ++ further symbol (g' :: es) := by
        rw [List.append_nil, ← same, joined]
      obtain ⟨-, nothing⟩ := simple.isDelimited g first _ _ text
      cases nothing

/-- Simple expressions with the same text are one tree. -/
theorem IsSimple.untagged_eq (simple : e.IsSimple) (simple' : f.IsSimple)
    (same : e.literal = f.literal) : e.untagged = f.untagged := by
  have same : e.literal.toList = f.literal.toList := congrArg String.toList same
  rcases simple.group_or_single with ⟨symbol, es, group, operands⟩ | single
  · rcases simple'.group_or_single with ⟨symbol', fs, group', operands'⟩ | single'
    · rw [group.toList_literal, group'.toList_literal] at same
      have each : ∀ g ∈ es, g.IsDelimited := fun g mem => (operands g mem).isDelimited
      obtain ⟨rfl, trees, -⟩ := joined_append_inj group.several each group'.several operands'
        (congrArg (· ++ [')']) same)
      exact group.untagged group' trees
    · exact absurd same (group.toList_literal_ne operands simple' single')
  · rcases simple'.group_or_single with ⟨symbol', fs, group', operands'⟩ | single'
    · exact absurd same.symm (group'.toList_literal_ne operands' simple single)
    · rw [← single, ← single'] at same
      exact (simple.isDelimited f simple' [] [] (congrArg (· ++ []) same)).1

/-- **The text of an expression determines it.** Two expressions of predicates of the library with
one integer at most as parameter, combined by `&` and `|` with two or more operands and by `~`, have
the same text exactly when they are one tree: the same predicates with the same parameters in the
same places, combined and grouped in the same way. And then they are equal. -/
theorem literal_eq_iff (simple : e.IsSimple) (simple' : f.IsSimple) :
    (e.literal = f.literal ↔ e.untagged = f.untagged) ∧
      (e.literal = f.literal → e.equal f = .ok true) := by
  refine ⟨⟨simple.untagged_eq simple', fun tree => ?_⟩, fun same => ?_⟩
  · rw [← literal_untagged e, tree, literal_untagged]
  · exact simple'.equal_of_untagged (simple.untagged_eq simple' same)

/-- Three tests, the first two of them grouped. -/
def groupedFirst (tag : Nat) : Expr :=
  .all [.all [.bound (.builtin tag .minSize) [.int (-2)],
      .bound (.builtin (tag + 1) .eql) [.bool true]],
    .negation (.bound (.builtin (tag + 2) .filled) [])]

/-- The same tests, the last two of them grouped. -/
def groupedLast (tag : Nat) : Expr :=
  .all [.bound (.builtin tag .minSize) [.int (-2)],
    .all [.bound (.builtin (tag + 1) .eql) [.bool true],
      .negation (.bound (.builtin (tag + 2) .filled) [])]]

theorem isSimple_grouped (tag : Nat) :
    (groupedFirst tag).IsSimple ∧ (groupedLast tag).IsSimple := by
  have pair {e f : Expr} (left : e.IsSimple) (right : f.IsSimple) : (all [e, f]).IsSimple :=
    .all (Nat.le_refl 2) (List.forall_mem_cons.mpr ⟨left, List.forall_mem_singleton.mpr right⟩)
  have least := IsSimple.bound tag .minSize (.int (-2))
  have yes := IsSimple.bound (tag + 1) .eql (.bool true)
  have unfilled := (IsSimple.bound (tag + 2) .filled .nothing).negation
  exact ⟨pair (pair least yes) unfilled, pair least (pair yes unfilled)⟩

/-- Other predicates of the same names make the same text, and another grouping does not. -/
theorem literal_eq_iff_grouped :
    (groupedFirst 0).literal = "(min_size?(-2) & eql?(True)) & ~filled?()" ∧
      (groupedFirst 0).literal = (groupedFirst 3).literal ∧
      (groupedFirst 0).equal (groupedFirst 3) = .ok true ∧
      (groupedFirst 0).literal ≠ (groupedLast 0).literal := by
  obtain ⟨simple, simple'⟩ := isSimple_grouped 0
  obtain ⟨texts, equal⟩ := literal_eq_iff simple (isSimple_grouped 3).1
  obtain ⟨others, -⟩ := literal_eq_iff simple simple'
  have same : (groupedFirst 0).literal = (groupedFirst 3).literal := texts.mpr rfl
  have regrouped : (groupedFirst 0).untagged ≠ (groupedLast 0).untagged := by
    intro tree
    cases tree
  exact ⟨by decide, same, equal same, mt others.mp regrouped⟩

end Whole

end Expr

end RecordRules
