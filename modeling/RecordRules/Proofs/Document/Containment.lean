import Mathlib.Data.List.TakeDrop
import Mathlib.Data.List.TakeWhile
import RecordRules.Proofs.Document.Defect
import RecordRules.Proofs.Registry.Lookup

/-!
Which faults leave the reading of a document.

Whatever the host does, a document is refused with a fault of definition or with a foreign one. A
foreign fault comes from the host: from taking the text or the tree apart, from reading a pattern,
or from writing the message about a value that is refused. A site lets through what it meets of
these (`Host.LetsThrough`), and the fault of a document is foreign exactly when the first site that
raises anything lets one through (`RuleSet.ofDocumentOn_foreign_iff`).

With the readers of this library some do get out: an integer in the text may have more digits than
are read, a pattern may follow the grammar and be refused all the same (`IsBeyondGrammar`), and a
refused parameter may hold an integer with more digits than are written.
-/

namespace RecordRules

/-! ### Faults of definition -/

/-- A fault of the definition of rules: one about a definition, a path among these, or about a name
that no predicate has. -/
def Fault.IsDefinition (f : Fault) : Prop :=
  "RuleDefinitionError" ∈ f.classNames ∨ "PredicateNotFoundError" ∈ f.classNames

instance : DecidablePred Fault.IsDefinition :=
  fun f => inferInstanceAs (Decidable ("RuleDefinitionError" ∈ f.classNames ∨ _))

theorem Fault.isDefinition_definition (d : Defect) : (Fault.definition d).IsDefinition :=
  .inl List.mem_cons_self

theorem Fault.isDefinition_badPath (path reason : Value) :
    (Fault.badPath path reason).IsDefinition :=
  .inl (List.mem_cons_of_mem _ List.mem_cons_self)

theorem Fault.isDefinition_unknownPredicate (name : Label) (valid : List Label) :
    (Fault.unknownPredicate name valid).IsDefinition :=
  .inr List.mem_cons_self

namespace ForeignFault

theorem not_isDefinition (g : ForeignFault) : ¬ g.toFault.IsDefinition := by
  obtain ⟨kind, arguments⟩ := g
  have names : (Fault.plain kind arguments).classNames = (Fault.plain kind []).classNames := rfl
  rw [toFault, Fault.IsDefinition, names]
  cases kind <;> decide

theorem toFault_injective : Function.Injective toFault := by
  rintro ⟨kind, arguments⟩ ⟨kind', arguments'⟩ same
  cases same
  rfl

end ForeignFault

/-- A fault of definition or a foreign one. -/
def Fault.IsOfReading (f : Fault) : Prop := f.IsDefinition ∨ ∃ g : ForeignFault, f = g.toFault

/-! ### What a host lets through -/

/-- What a site lets through of a host: a value is refused there and cannot be written into the
message, or a pattern is refused in a way that nobody is prepared for. -/
inductive Host.LetsThrough (host : Host) : Document.Site → ForeignFault → Prop where
  | word {place v rest g} (unknown : ∀ c, ¬ Document.StandsFor v c)
      (unwritten : host.quote v = .error g) :
      LetsThrough host (.node place (.named Builtin.type.text (v :: rest))) g
  | param {place} {b : Builtin} {v d g} (other : b ≠ .type)
      (refused : b.checkBy host.compile [v] = .error (.definition d)) (quoted : d.quoted? = some v)
      (unwritten : host.quote v = .error g) :
      LetsThrough host (.node place (.named b.text [v])) g
  | pattern {place label g} (unread : host.compile label = .error (.foreign g)) :
      LetsThrough host (.node place (.named Builtin.format.text [.text label])) g
  | path {rule path g} (refused : ¬ IsPath path)
      (unwritten : host.quote (.ofString path) = .error g) :
      LetsThrough host (.path rule path) g

/-- What leaves the reading of a document beside faults of definition: the tree cannot be matched
against the schema, or the first site that raises anything lets a fault through. -/
inductive Host.LetsOut (host : Host) (tag : Nat) (document : Value) : ForeignFault → Prop where
  | tree {g} (unmatched : host.nodes document = .error (.foreign g)) : LetsOut host tag document g
  | site {nodes s f g} (read : host.nodes document = .ok nodes)
      (first : Except.FirstRaised (Document.Site.Raises host.checks (.standard tag))
        (Document.sites nodes) s f)
      (through : host.LetsThrough s g) : LetsOut host tag document g

/-- What leaves the reading of a source beside faults of definition: it cannot be taken apart, or
the document in it lets a fault out. -/
inductive Host.LetsOutOf (host : Host) (tag : Nat) (source : Value) : ForeignFault → Prop where
  | text {g} (unread : host.load source = .error (.foreign g)) : LetsOutOf host tag source g
  | document {readOnly entries g} (read : host.load source = .ok (.dict readOnly entries))
      (out : host.LetsOut tag (.dict readOnly entries) g) : LetsOutOf host tag source g

section Raising

open Document

variable {host : Host} {tag : Nat} {f : Fault} {g : ForeignFault} {s : Site}

/-- A fault is written as a foreign one if it is that, or if its message cannot be written. -/
theorem Host.raise_eq_foreign_iff :
    host.raise f = g.toFault ↔
      f = g.toFault ∨ ∃ v, f.quoted? = some v ∧ host.quote v = .error g := by
  constructor
  · intro raised
    unfold raise at raised
    split at raised
    · rename_i h unwritten
      obtain rfl := ForeignFault.toFault_injective raised
      obtain ⟨v, quoted, unwritten⟩ := Option.map_eq_some_iff.mp unwritten
      exact .inr ⟨v, quoted, unwritten⟩
    · exact .inl raised
  · rintro (rfl | ⟨v, quoted, unwritten⟩)
    · rfl
    · rw [raise, quoted, Option.map_some, unwritten]

theorem Host.isOfReading_raise (raised : f.IsOfReading) : (host.raise f).IsOfReading := by
  unfold raise
  split
  · exact .inr ⟨_, rfl⟩
  · exact raised

namespace Builtin

/-- A check that refuses parameters, as many as the predicate takes, refuses the only one: it quotes
it in a fault of definition, or the host refuses it as a pattern in its own way. -/
theorem checkBy_error {b : Builtin} {compile : Pattern.Compiler} {params : List Value}
    (count : params.length = b.arity) (refused : b.checkBy compile params = .error f) :
    ∃ v, params = [v] ∧ ((∃ d, f = .definition d ∧ d.quoted? = some v) ∨
      ∃ label g, b = .format ∧ v = .text label ∧ compile label = .error (.foreign g) ∧
        f = g.toFault) := by
  have only (arity : b.arity = 1) : ∃ v, params = [v] :=
    List.length_eq_one_iff.mp (count.trans arity)
  cases b with
  | type =>
      obtain ⟨v, rfl⟩ := only rfl
      refine ⟨v, rfl, .inl ?_⟩
      change (if v.isClass then pure () else throw _) = _ at refused
      split at refused
      · cases refused
      · cases refused
        exact ⟨_, rfl, rfl⟩
  | format =>
      obtain ⟨v, rfl⟩ := only rfl
      refine ⟨v, rfl, ?_⟩
      change checkPattern compile v = _ at refused
      unfold checkPattern at refused
      split at refused
      · cases refused
      · obtain ⟨r, unread, rfl⟩ := Except.mapError_error_iff.mp refused
        cases r with
        | expected reason => exact .inl ⟨_, rfl, rfl⟩
        | foreign g => exact .inr ⟨_, g, rfl, rfl, unread, rfl⟩
      · cases refused
        exact .inl ⟨_, rfl, rfl⟩
  | size | minSize | maxSize =>
      obtain ⟨v, rfl⟩ := only rfl
      refine ⟨v, rfl, .inl ?_⟩
      change checkLength _ v = _ at refused
      unfold checkLength at refused
      split at refused
      · cases refused
      · cases refused
      · cases refused
        exact ⟨_, rfl, rfl⟩
  | includedIn | excludedFrom =>
      obtain ⟨v, rfl⟩ := only rfl
      refine ⟨v, rfl, .inl ?_⟩
      change checkCollection _ v = _ at refused
      unfold checkCollection at refused
      split at refused
      · cases refused
      · cases refused
        exact ⟨_, rfl, rfl⟩
  | _ => cases refused

/-- A predicate that refuses a parameter takes one. -/
theorem arity_of_refused {b : Builtin} {compile : Pattern.Compiler} {v : Value}
    (refused : b.checkBy compile [v] = .error f) : b.arity = 1 := by
  cases b <;> first | rfl | cases refused

end Builtin

/-- What a predicate of the library refuses, bound as a document names it: a parameter that stands
as it is written, under another name than `type?`. -/
theorem Document.Resolves.eq_of_refused {b : Builtin} {compile : Pattern.Compiler} {v : Value}
    {given : List Value} (resolves : Resolves b.text given [v])
    (refused : b.checkBy compile [v] = .error f) : b ≠ .type ∧ given = [v] := by
  cases resolves with
  | asGiven plain =>
      refine ⟨?_, rfl⟩
      rintro rfl
      cases plain rfl
  | type isType stands =>
      obtain rfl := Builtin.eq_of_text_eq isType
      have passes := Builtin.check_type_of_isClass stands.isClass
      cases refused.symm.trans passes

/-- What a site raises is a fault of definition or a foreign one. -/
theorem Document.Site.Raises.isOfReading (raised : s.Raises host.checks (.standard tag) f) :
    f.IsOfReading := by
  cases raised with
  | unknownClass | parameterCount | emptyGroup | crowdedNegation =>
      exact .inl (Fault.isDefinition_definition _)
  | unknownPredicate => exact .inl (Fault.isDefinition_unknownPredicate _ _)
  | blankPath | emptySegment => exact .inl (Fault.isDefinition_badPath _ _)
  | refusedParams resolves found count refused =>
      obtain ⟨b, rfl, rfl⟩ := Registry.get?_standard.mp found
      obtain ⟨v, rfl, ⟨d, rfl, -⟩ | ⟨label, g, -, -, -, rfl⟩⟩ := Builtin.checkBy_error count refused
      · exact .inl (Fault.isDefinition_definition d)
      · exact .inr ⟨g, rfl⟩

/-- What a site raises is written as a foreign fault exactly when the site lets that through. -/
theorem Document.Site.raises_foreign_iff (tag : Nat) :
    (∃ f, s.Raises host.checks (.standard tag) f ∧ host.raise f = g.toFault) ↔
      host.LetsThrough s g := by
  simp only [Host.raise_eq_foreign_iff]
  constructor
  · rintro ⟨f, raised, written⟩
    cases raised with
    | unknownClass unknown =>
        obtain foreign | ⟨v, quoted, unwritten⟩ := written
        · cases foreign
        · cases quoted
          exact .word unknown unwritten
    | unknownPredicate | parameterCount | emptyGroup | crowdedNegation =>
        obtain foreign | ⟨v, quoted, -⟩ := written
        · cases foreign
        · cases quoted
    | refusedParams resolves found count refused =>
        obtain ⟨b, rfl, rfl⟩ := Registry.get?_standard.mp found
        obtain ⟨v, rfl, ⟨d, rfl, quoted⟩ | ⟨label, h, rfl, rfl, unread, rfl⟩⟩ :=
          Builtin.checkBy_error count refused
        · obtain ⟨other, rfl⟩ := resolves.eq_of_refused refused
          obtain foreign | ⟨w, quoted', unwritten⟩ := written
          · cases foreign
          · cases quoted.symm.trans quoted'
            exact .param other refused quoted unwritten
        · obtain ⟨-, rfl⟩ := resolves.eq_of_refused refused
          obtain foreign | ⟨w, quoted, -⟩ := written
          · obtain rfl := ForeignFault.toFault_injective foreign
            exact .pattern unread
          · cases quoted
    | blankPath blank =>
        obtain foreign | ⟨v, quoted, unwritten⟩ := written
        · cases foreign
        · cases quoted
          exact .path (fun isPath => nomatch blank.symm.trans isPath.notBlank) unwritten
    | emptySegment notBlank segment =>
        obtain foreign | ⟨v, quoted, unwritten⟩ := written
        · cases foreign
        · cases quoted
          exact .path (fun isPath => isPath.segments "" segment rfl) unwritten
  · intro through
    cases through with
    | word unknown unwritten => exact ⟨_, .unknownClass unknown, .inr ⟨_, rfl, unwritten⟩⟩
    | @param place b v d _ other refused quoted unwritten =>
        refine ⟨_, .refusedParams (.asGiven fun same => ?_)
          (Registry.get?_standard.mpr ⟨b, rfl, rfl⟩) (Builtin.arity_of_refused refused).symm
          refused, .inr ⟨v, quoted, unwritten⟩⟩
        exact absurd (Builtin.eq_of_text_eq same) other
    | @pattern place label _ unread =>
        have refused : host.checks (Builtin.format.predicate tag) [.text label] =
            .error g.toFault := Except.mapError_error_iff.mpr ⟨_, unread, rfl⟩
        refine ⟨_, .refusedParams (.asGiven fun same => ?_)
          (Registry.get?_standard.mpr ⟨.format, rfl, rfl⟩) rfl refused, .inl rfl⟩
        exact absurd (Builtin.eq_of_text_eq same) (by decide)
    | @path rule path _ refused unwritten =>
        by_cases blank : Text.isBlankText path = true
        · exact ⟨_, .blankPath blank, .inr ⟨_, rfl, unwritten⟩⟩
        · have notBlank := Bool.eq_false_iff.mpr blank
          have segment : "" ∈ Text.splitOn "." path := by
            by_contra none
            exact refused ⟨notBlank, fun segment mem same => none (same ▸ mem)⟩
          exact ⟨_, .emptySegment notBlank segment, .inr ⟨_, rfl, unwritten⟩⟩

end Raising

/-! ### Documents and sources -/

namespace RuleSet

open Document

variable {host : Host} {tag : Nat} {document source : Value} {g : ForeignFault}

/-- A document is refused with a fault of definition or with a foreign one. -/
theorem ofDocumentOn_faults :
    Except.FaultsIn Fault.IsOfReading (ofDocumentOn host (.standard tag) document) := by
  refine .bind (.mapError (P := fun _ => True) ?_ fun _ _ => trivial) fun nodes _ => ?_
  · rintro (problem | g) -
    · exact .inl (Fault.isDefinition_definition _)
    · exact .inr ⟨g, rfl⟩
  · refine .bind ?_ fun rules _ => .ok _
    refine .mapError (fun _ => Host.isOfReading_raise) fun f refused => ?_
    obtain ⟨s, before, after, -, -, raised⟩ := (buildRules_stops nodes f).mp refused
    exact raised.isOfReading

/-- The foreign faults of a document are those that the host lets out of it. -/
theorem ofDocumentOn_foreign_iff :
    ofDocumentOn host (.standard tag) document = .error g.toFault ↔
      host.LetsOut tag document g := by
  rw [ofDocumentOn, Except.bind_error_iff, Except.mapError_error_iff]
  constructor
  · rintro (⟨refusal, unmatched, same⟩ | ⟨nodes, read, refused⟩)
    · cases refusal with
      | expected problem => cases same
      | foreign h =>
          obtain rfl := ForeignFault.toFault_injective same
          exact .tree unmatched
    · obtain refused | ⟨_, -, done⟩ := Except.bind_error_iff.mp refused
      · obtain ⟨f, refused, written⟩ := Except.mapError_error_iff.mp refused
        obtain ⟨s, first⟩ := (buildRules_stops nodes f).mp refused
        have raised : s.Raises host.checks (.standard tag) f := by
          obtain ⟨before, after, -, -, raised⟩ := first
          exact raised
        exact .site (Except.mapError_ok_iff.mp read) first
          ((Site.raises_foreign_iff tag).mp ⟨f, raised, written⟩)
      · cases done
  · intro out
    cases out with
    | tree unmatched => exact .inl ⟨_, unmatched, rfl⟩
    | @site nodes s f _ read first through =>
        -- the site raises some fault that is written as `g`, and it is the first to raise any
        obtain ⟨f', raised, written⟩ := (Site.raises_foreign_iff tag).mpr through
        obtain ⟨before, after, split, calm, -⟩ := first
        have refused : buildRules host.checks (.standard tag) 0 nodes = .error f' :=
          (buildRules_stops nodes f').mpr ⟨s, before, after, split, calm, raised⟩
        refine .inr ⟨nodes, Except.mapError_ok_iff.mpr read, Except.bind_error_iff.mpr (.inl ?_)⟩
        exact Except.mapError_error_iff.mpr ⟨f', refused, written⟩

/-- A source is refused with a fault of definition or with a foreign one. -/
theorem ofJsonOn_faults :
    Except.FaultsIn Fault.IsOfReading (ofJsonOn host (.standard tag) source) := by
  refine .bind (.mapError (P := fun _ => True) ?_ fun _ _ => trivial) fun document _ => ?_
  · rintro (reason | g) -
    · exact .inl (Fault.isDefinition_definition _)
    · exact .inr ⟨g, rfl⟩
  · split
    · exact ofDocumentOn_faults
    · exact .error (.inl (Fault.isDefinition_definition _))

/-- The foreign faults of a source are those that the host lets out of it. -/
theorem ofJsonOn_foreign_iff :
    ofJsonOn host (.standard tag) source = .error g.toFault ↔ host.LetsOutOf tag source g := by
  rw [ofJsonOn, Except.bind_error_iff, Except.mapError_error_iff]
  constructor
  · rintro (⟨refusal, unread, same⟩ | ⟨document, read, refused⟩)
    · cases refusal with
      | expected reason => cases same
      | foreign h =>
          obtain rfl := ForeignFault.toFault_injective same
          exact .text unread
    · split at refused
      · exact .document (Except.mapError_ok_iff.mp read) (ofDocumentOn_foreign_iff.mp refused)
      · cases refused
  · intro out
    cases out with
    | text unread => exact .inl ⟨_, unread, rfl⟩
    | document read out =>
        exact .inr ⟨_, Except.mapError_ok_iff.mpr read, ofDocumentOn_foreign_iff.mpr out⟩

end RuleSet

/-! ### The readers of this library -/

namespace Pattern

/-- A pattern is refused, but not because it does not follow the grammar. -/
def Fault.IsBeyondGrammar (e : Pattern.Fault) : Prop :=
  ∀ message, e ≠ .malformed message

theorem Fault.IsBeyondGrammar.toRefusal_eq {e : Pattern.Fault} (beyond : e.IsBeyondGrammar) :
    e.toRefusal = .foreign e.toForeign := by
  cases e with
  | malformed message => exact absurd rfl (beyond message)
  | _ => rfl

theorem compile_beyondGrammar {label : Label} {e : Pattern.Fault}
    (read : Compiled.read label.text [] = .error e) (beyond : e.IsBeyondGrammar) :
    compile label = .error (.foreign e.toForeign) := by
  rw [compile, read]
  exact congrArg Except.error beyond.toRefusal_eq

end Pattern

section Standard

open Document Number

variable {tag : Nat}

theorem Number.isUnwritable_iff {n : Nat} :
    IsUnwritable n ↔ Nat.pow 10 greatestDigitCount ≤ n := by
  have base : 1 < 10 := by decide
  have some : 0 < greatestDigitCount := by decide
  rw [IsUnwritable, digitCount, digits, Int.natAbs_natCast, ← Nat.not_le,
    Nat.length_toDigits_le_iff base some, Nat.not_lt, Nat.pow_eq]

/-- A document of one rule, which binds a predicate to one parameter. -/
def Document.ofLeaf (path : String) (b : Builtin) (v : Value) : Value :=
  .object [("rules", .list [.object [("attribute", .ofString path),
    ("predicate", .ofString b.text), ("params", .list [v])]])]

/-- What the only node of such a document lets through gets out. -/
theorem RuleSet.ofDocument_ofLeaf {path : String} {b : Builtin} {v : Value} {g : ForeignFault}
    (through : Host.standard.LetsThrough (.node ⟨0, []⟩ (.named b.text [v])) g) :
    ofDocument (.standard tag) (Document.ofLeaf path b v) = .error g.toFault := by
  have read : Host.standard.nodes (Document.ofLeaf path b v) =
      .ok [⟨path, .named b.text [v]⟩] := rfl
  obtain ⟨f, raised, -⟩ := (Site.raises_foreign_iff tag).mpr through
  have first : Except.FirstRaised (Site.Raises Host.standard.checks (.standard tag))
      (sites [⟨path, .named b.text [v]⟩]) (.node ⟨0, []⟩ (.named b.text [v])) f :=
    ⟨[], [.path 0 path], rfl, List.forall_mem_nil _, raised⟩
  exact ofDocumentOn_foreign_iff.mpr (.site read first through)

/-- A value that is refused and shows an integer of too many digits is let through. -/
theorem Host.letsThrough_unwritable {place : Place} {b : Builtin} {v : Value} {d : Defect}
    (refused : b.check [v] = .error (.definition d)) (quoted : d.quoted? = some v)
    (long : ∃ i ∈ v.integers, IsUnwritable i) :
    standard.LetsThrough (.node place (.named b.text [v])) (.ofMessage .value unwritableText) := by
  have unwritten : standard.quote v = .error (.ofMessage .value unwritableText) := if_pos long
  by_cases type : b = .type
  · subst type
    refine .word (fun c stands => ?_) unwritten
    cases stands with
    | itself isClass => cases refused.symm.trans (Builtin.check_type_of_isClass isClass)
    | word known =>
        obtain ⟨i, mem, -⟩ := long
        cases mem
  · exact .param type refused quoted unwritten

end Standard

/-! ### Text -/

section Text

open Json Number

theorem load_tooManyDigits {text : String} {count : Nat}
    (read : readAll text.toList = .error (.tooManyDigits count)) :
    Host.standard.load (.ofString text) =
      .error (.foreign (.ofMessage .value (tooManyDigitsText count))) := by
  change Json.read text = _
  rw [Json.read, read]
  rfl

theorem find?_words {d : Char} (digit : Text.isAsciiDigit d.toNat = true) (rest : List Char) :
    words.find? (fun w => w.1.isPrefixOf (d :: rest)) = none := by
  have starts : ∀ w ∈ words, (w.1.head?.any fun c => !Text.isAsciiDigit c.toNat) = true := by decide
  rw [List.find?_eq_none]
  intro w mem isPrefix
  have other := starts w mem
  match h : w.1 with
  | [] => rw [h] at other; cases other
  | c :: cs =>
      rw [h] at isPrefix other
      simp only [List.isPrefixOf, Bool.and_eq_true, beq_iff_eq] at isPrefix
      simp only [List.head?_cons, Option.any_some, isPrefix.1, digit] at other
      cases other

theorem spanDigits_of_all {ds : List Char} (digits : ∀ c ∈ ds, Text.isAsciiDigit c.toNat = true) :
    spanDigits ds = (ds, []) := by
  rw [spanDigits, List.span_eq_takeWhile_dropWhile, List.takeWhile_eq_self_iff.mpr digits,
    List.dropWhile_eq_nil_iff.mpr digits]

/-- A run of more digits than are read, the first of which is not zero, is too long an integer. -/
theorem readAll_digits {d : Char} {rest : List Char}
    (digits : ∀ c ∈ d :: rest, Text.isAsciiDigit c.toNat = true) (leading : d ≠ '0')
    (long : greatestDigitCount < rest.length + 1) :
    readAll (d :: rest) = .error (.tooManyDigits (rest.length + 1)) := by
  have digit := digits d List.mem_cons_self
  have other : ∀ c : Char, Text.isAsciiDigit c.toNat = false → d ≠ c := by
    rintro c hc rfl
    exact absurd (digit.symm.trans hc) (by decide)
  have space : skipSpace (d :: rest) = d :: rest := by
    simp [skipSpace, isSpace, other ' ' (by decide), other '\t' (by decide),
      other '\n' (by decide), other '\r' (by decide)]
  have number : readNumber (d :: rest) = .error (.tooManyDigits (rest.length + 1)) := by
    unfold readNumber
    split
    rename_i negative body sign
    split at sign
    · rename_i h
      exact absurd (List.cons.inj h).1 (other _ (by decide))
    · cases sign
      split
      rename_i whole after lead
      split at lead
      · rename_i h
        exact absurd (List.cons.inj h).1 leading
      · rw [spanDigits_of_all digits] at lead
        cases lead
        simp only [spanFraction, spanExponent, List.isEmpty_cons, List.isEmpty_nil,
          List.length_cons, Bool.and_self, if_true, if_pos long]
        rfl
  have plain : readPlain (d :: rest) = .error (.tooManyDigits (rest.length + 1)) := by
    rw [readPlain, find?_words digit]
    exact number
  have value (fuel : Nat) :
      readValue (fuel + 1) (d :: rest) = .error (.tooManyDigits (rest.length + 1)) := by
    unfold readValue
    split
    · rename_i h
      exact absurd (List.cons.inj h).1 (other _ (by decide))
    · rename_i h
      exact absurd (List.cons.inj h).1 (other _ (by decide))
    · rename_i h
      exact absurd (List.cons.inj h).1 (other _ (by decide))
    · exact plain
  have first : ¬ (d :: rest).head? = some '\uFEFF' := by
    rw [List.head?_cons, Option.some.injEq]
    exact other _ (by decide)
  rw [readAll, if_neg first, space, value]
  rfl

/-- The faults of reading documents with the predicates of the library, on any host. Every one is a
fault of definition or foreign, and never both. The foreign ones are exactly those that the host
lets out: it fails to take the text or the tree apart in a way that is not expected of it, or at the
first site that raises anything it fails to read a pattern in such a way or to write a value that is
refused there. On the host of this library such are all integers in the text that have too many
digits, all patterns beyond the grammar, and all refused parameters that show an integer with too
many digits. -/
theorem RuleSet.faults_of_reading (host : Host) (tag : Nat) :
    (∀ document f, ofDocumentOn host (.standard tag) document = .error f →
      f.IsDefinition ∨ ∃ g : ForeignFault, f = g.toFault) ∧
    (∀ document g, ofDocumentOn host (.standard tag) document = .error g.toFault ↔
      host.LetsOut tag document g) ∧
    (∀ source f, ofJsonOn host (.standard tag) source = .error f →
      f.IsDefinition ∨ ∃ g : ForeignFault, f = g.toFault) ∧
    (∀ source g, ofJsonOn host (.standard tag) source = .error g.toFault ↔
      host.LetsOutOf tag source g) ∧
    (∀ g : ForeignFault, ¬ g.toFault.IsDefinition) ∧
    (∀ text count, readAll text.toList = .error (.tooManyDigits count) →
      ∃ g : ForeignFault, ofJson (.standard tag) (.ofString text) = .error g.toFault) ∧
    (∀ path label e, Pattern.Compiled.read label.text [] = .error e → e.IsBeyondGrammar →
      ∃ g : ForeignFault,
        ofDocument (.standard tag) (Document.ofLeaf path .format (.text label)) =
          .error g.toFault) ∧
    ∀ path (b : Builtin) v d, b.check [v] = .error (.definition d) → d.quoted? = some v →
      (∃ i ∈ v.integers, IsUnwritable i) →
      ∃ g : ForeignFault,
        ofDocument (.standard tag) (Document.ofLeaf path b v) = .error g.toFault := by
  refine ⟨fun document => ofDocumentOn_faults, fun document g => ofDocumentOn_foreign_iff,
    fun source => ofJsonOn_faults, fun source g => ofJsonOn_foreign_iff,
    ForeignFault.not_isDefinition, fun text count read => ?_, fun path label e read beyond => ?_,
    fun path b v d refused quoted long => ?_⟩
  · exact ⟨_, ofJsonOn_foreign_iff.mpr (.text (load_tooManyDigits read))⟩
  · exact ⟨_, ofDocument_ofLeaf (.pattern (Pattern.compile_beyondGrammar read beyond))⟩
  · exact ⟨_, ofDocument_ofLeaf (Host.letsThrough_unwritable refused quoted long)⟩

/-- An integer of too many digits in the text, a pattern with too large a count, and a refused size
of too many digits, as they get out. -/
theorem RuleSet.faults_of_large_numbers :
    (∃ f, RuleSet.ofJson (Registry.standard 0)
        (.ofString (String.ofList ('1' :: List.replicate 4300 '1'))) = .error f ∧
      ¬ f.IsDefinition) ∧
    (∃ f, RuleSet.ofDocument (Registry.standard 0)
        (Document.ofLeaf "a" .format (.ofString "a\x7b4294967296\x7d")) = .error f ∧
      ¬ f.IsDefinition) ∧
    ∃ f, RuleSet.ofDocument (Registry.standard 0)
        (Document.ofLeaf "a" .size (.list [.int (Nat.pow 10 greatestDigitCount : Nat)])) =
          .error f ∧
      ¬ f.IsDefinition := by
  obtain ⟨-, -, -, -, foreign, integers, patterns, sizes⟩ := faults_of_reading .standard 0
  refine ⟨?_, ?_, ?_⟩
  · have digits : ∀ c ∈ '1' :: List.replicate 4300 '1', Text.isAsciiDigit c.toNat = true := by
      intro c mem
      rcases List.mem_cons.mp mem with rfl | mem
      · decide
      · rw [List.eq_of_mem_replicate mem]
        decide
    have long : greatestDigitCount < (List.replicate 4300 '1').length + 1 := by
      rw [List.length_replicate]
      decide
    obtain ⟨g, fault⟩ := integers (String.ofList ('1' :: List.replicate 4300 '1')) _
      (by rw [String.toList_ofList, readAll_digits digits (by decide) long])
    exact ⟨_, fault, foreign g⟩
  · have read : ∃ e, Pattern.Compiled.read (Label.plain "a\x7b4294967296\x7d").text [] =
        .error e ∧ e = .hugeCount := Except.exists_error_of_match (by decide +kernel)
    obtain ⟨e, read, rfl⟩ := read
    obtain ⟨g, fault⟩ := patterns "a" _ .hugeCount read nofun
    exact ⟨_, fault, foreign g⟩
  · obtain ⟨n, long⟩ : ∃ n, n = Nat.pow 10 greatestDigitCount := ⟨_, rfl⟩
    rw [← long]
    obtain ⟨g, fault⟩ := sizes "a" .size (.list [.int n]) _ rfl rfl
      ⟨n, List.mem_singleton_self _, isUnwritable_iff.mpr long.ge⟩
    exact ⟨_, fault, foreign g⟩

/-- The fault of a pattern with too large a count gets out of the text of a document. -/
theorem RuleSet.ofJson_hugeCount :
    ∃ f, RuleSet.ofJson (Registry.standard 0) (.ofString
        ("\x7b\"rules\": [\x7b\"attribute\": \"a\", \"predicate\": \"format?\", " ++
          "\"params\": [\"a\x7b4294967296\x7d\"]\x7d]\x7d")) = .error f ∧
      ¬ f.IsDefinition :=
  Except.exists_error_of_match (by decide +kernel)

end Text

end RecordRules
