import Mathlib.Data.List.TakeDrop
import RecordRules.Pattern.Matching

/-!
What patterns match.

A regular pattern is made of characters and sets of them by sequence, choice, groups and greedy
repetition. What it matches depends on the matched characters alone, and `Node.Denotes` says what
that is without any order of attempts. The matcher tries one way after another and hands the rest of
the text to a continuation. A body reads a language when, whatever the continuation, it finds a way
exactly if the rest of the text is a word of the language and then something that the continuation
accepts (`Reads`). Each way to make a pattern has a lemma about this, and together they say that the
matcher misses nothing: a regular pattern reads what it denotes (`Node.IsRegular.reads`).
-/

namespace RecordRules.Pattern

/-! ### Languages -/

/-- A number of words of a language, one after another. -/
def Repeats (language : List Char → Prop) (least : Nat) (most : Option Nat) (word : List Char) :
    Prop :=
  ∃ words : List (List Char), word = words.flatten ∧ (∀ w ∈ words, language w) ∧
    least ≤ words.length ∧ ∀ m ∈ most, words.length ≤ m

/-- The modes inside a group. -/
def Flags.inside (f on off : Flags) (scripted : Bool) : Flags :=
  ((if scripted then { f with ascii := false } else f).union on).minus off

/-- The words that a pattern matches under some modes. -/
inductive Node.Denotes : Flags → Node → List Char → Prop where
  | char {f : Flags} {c : Nat} {d : Char} (same : f.fold c = f.fold d.toNat) :
      Denotes f (.char c) [d]
  | any {f : Flags} {d : Char} (within : f.dotAll = true ∨ d.toNat ≠ 0x0a) : Denotes f .any [d]
  | set {f : Flags} {negated : Bool} {items : List Item} {d : Char}
      (chosen : (items.any fun i => i.holds f d.toNat) ≠ negated) :
      Denotes f (.set negated items) [d]
  | done {f : Flags} : Denotes f (.sequence []) []
  | next {f : Flags} {n : Node} {nodes : List Node} {word rest : List Char}
      (first : Denotes f n word) (later : Denotes f (.sequence nodes) rest) :
      Denotes f (.sequence (n :: nodes)) (word ++ rest)
  | choice {f : Flags} {n : Node} {branches : List Node} {word : List Char}
      (branch : n ∈ branches) (matched : Denotes f n word) : Denotes f (.choice branches) word
  | group {f on off : Flags} {index : Option Nat} {scripted : Bool} {body : Node}
      {word : List Char} (within : Denotes (f.inside on off scripted) body word) :
      Denotes f (.group index on off scripted body) word
  | iteration {f : Flags} {greed : Greed} {least : Nat} {most : Option Nat} {body : Node}
      {words : List (List Char)} (each : ∀ w ∈ words, Denotes f body w)
      (enough : least ≤ words.length) (bounded : ∀ m ∈ most, words.length ≤ m) :
      Denotes f (.iteration greed least most body) words.flatten

/-- Patterns of characters, sequence, choice, groups and greedy repetition. -/
inductive Node.IsRegular : Node → Prop where
  | char (c : Nat) : IsRegular (.char c)
  | any : IsRegular .any
  | set (negated : Bool) (items : List Item) : IsRegular (.set negated items)
  | sequence {nodes : List Node} (each : ∀ n ∈ nodes, IsRegular n) : IsRegular (.sequence nodes)
  | choice {branches : List Node} (each : ∀ n ∈ branches, IsRegular n) :
      IsRegular (.choice branches)
  | group {on off : Flags} {index : Option Nat} {scripted : Bool} {body : Node}
      (within : IsRegular body) : IsRegular (.group index on off scripted body)
  | iteration {least : Nat} {most : Option Nat} {body : Node} (ordered : ∀ m ∈ most, least ≤ m)
      (within : IsRegular body) : IsRegular (.iteration .greedy least most body)

/-! ### Reading -/

/-- The characters of a text as the matcher is given them. -/
def codes (text : List Char) : Array Nat :=
  (text.map Char.toNat).toArray

theorem size_codes (text : List Char) : (codes text).size = text.length := by
  simp [codes]

theorem getElem?_codes (text : List Char) (i : Nat) :
    (codes text)[i]? = (text.drop i).head?.map Char.toNat := by
  simp [codes, List.head?_drop]

/-- A continuation succeeds exactly where what is left of the text has a property. -/
def Accepts (text : List Char) (k : Continuation) (rest : List Char → Prop) : Prop :=
  ∀ s : Cursor, s.position ≤ text.length → ((k s).isSome = true ↔ rest (text.drop s.position))

/-- Whatever follows, a body succeeds exactly where the text goes on with a word of a language and
then as what follows accepts. -/
def Reads (text : List Char) (body : Cursor → Continuation → Option Cursor)
    (language : List Char → Prop) : Prop :=
  ∀ ⦃k : Continuation⦄ ⦃rest : List Char → Prop⦄, Accepts text k rest →
    Accepts text (fun s => body s k) fun cs =>
      ∃ word tail, cs = word ++ tail ∧ language word ∧ rest tail

section Reading

variable {text : List Char} {k : Continuation} {rest rest' : List Char → Prop}
  {body body' : Cursor → Continuation → Option Cursor} {language language' : List Char → Prop}

theorem Accepts.congr (accepts : Accepts text k rest) (same : ∀ cs, rest cs ↔ rest' cs) :
    Accepts text k rest' :=
  fun s inside => (accepts s inside).trans (same _)

theorem Reads.congr (reads : Reads text body language) (same : ∀ w, language w ↔ language' w) :
    Reads text body language' := by
  intro k rest accepts
  refine (reads accepts).congr fun cs => ?_
  simp only [same]

/-- One character that passes a test is read. -/
theorem reads_step (text : List Char) (test : Nat → Bool) :
    Reads text (step (codes text) test) fun word => ∃ d, word = [d] ∧ test d.toNat = true := by
  intro k rest accepts s inside
  dsimp only [step]
  rw [getElem?_codes]
  cases left : text.drop s.position with
  | nil => simp
  | cons d tail =>
      have short : s.position < text.length := by
        have lengths := congrArg List.length left
        simp only [List.length_drop, List.length_cons] at lengths
        omega
      have after : text.drop (s.position + 1) = tail := by
        rw [← List.drop_drop, left]
        rfl
      have going := accepts { s with position := s.position + 1 } short
      rw [after] at going
      by_cases passes : test d.toNat = true
      · simp [passes, going]
      · simp [passes]

/-- Nothing is read at all. -/
theorem reads_nothing (text : List Char) : Reads text (fun s k => k s) fun word => word = [] := by
  intro k rest accepts
  refine accepts.congr fun cs => ?_
  simp

/-- One body after another reads the words of the one followed by those of the other. -/
theorem Reads.next (first : Reads text body language) (later : Reads text body' language') :
    Reads text (fun s k => body s fun t => body' t k) fun word =>
      ∃ u v, word = u ++ v ∧ language u ∧ language' v := by
  intro k rest accepts
  refine (first (later accepts)).congr fun cs => ?_
  constructor
  · rintro ⟨u, _, rfl, hu, v, tail, rfl, hv, htail⟩
    exact ⟨u ++ v, tail, (List.append_assoc _ _ _).symm, ⟨u, v, rfl, hu, hv⟩, htail⟩
  · rintro ⟨_, tail, rfl, ⟨u, v, rfl, hu, hv⟩, htail⟩
    exact ⟨u, v ++ tail, List.append_assoc _ _ _, hu, v, tail, rfl, hv, htail⟩

/-- One body or else another reads the words of both. -/
theorem Reads.or (first : Reads text body language) (other : Reads text body' language') :
    Reads text (fun s k => (body s k).or (body' s k)) fun word =>
      language word ∨ language' word := by
  intro k rest accepts s inside
  have left := first accepts s inside
  have right := other accepts s inside
  dsimp only at left right ⊢
  rw [Option.isSome_or, Bool.or_eq_true, left, right]
  constructor
  · rintro (⟨word, tail, split, hword, htail⟩ | ⟨word, tail, split, hword, htail⟩)
    · exact ⟨word, tail, split, .inl hword, htail⟩
    · exact ⟨word, tail, split, .inr hword, htail⟩
  · rintro ⟨word, tail, split, hword | hword, htail⟩
    · exact .inl ⟨word, tail, split, hword, htail⟩
    · exact .inr ⟨word, tail, split, hword, htail⟩

/-! ### Repetition -/

/-- Some rounds can do without those that match nothing, and then there are at most as many as there
are characters. -/
theorem exists_progressing {words : List (List Char)} (each : ∀ w ∈ words, language w) :
    ∃ words' : List (List Char), words'.flatten = words.flatten ∧ (∀ w ∈ words', language w) ∧
      (∀ w ∈ words', w ≠ []) ∧ words'.length ≤ words.length ∧
      words'.length ≤ words.flatten.length := by
  refine ⟨words.filter fun w => !w.isEmpty, List.flatten_filter_not_isEmpty, ?_, ?_,
    List.length_filter_le _ _, ?_⟩
  · intro w mem
    exact each w (List.mem_filter.mp mem).1
  · intro w mem
    simpa using (List.mem_filter.mp mem).2
  · induction words with
    | nil => simp
    | cons w words ih =>
        have later := ih fun w mem => each w (List.mem_cons_of_mem _ mem)
        cases w with
        | nil => simpa using later
        | cons c cs =>
            simp only [List.isEmpty_cons, Bool.not_false, List.filter_cons_of_pos,
              List.length_cons, List.flatten_cons, List.length_append]
            omega

/-- At most a number of words of a language, and then what follows them. -/
def AtMost (language rest : List Char → Prop) (n : Nat) (cs : List Char) : Prop :=
  ∃ words tail, cs = List.flatten words ++ tail ∧ (∀ w ∈ words, language w) ∧ words.length ≤ n ∧
    rest tail

/-- Of some rounds the first one moves on and others follow it, or it does not and what follows them
all comes next, or there is none. -/
theorem atMost_succ_iff {n : Nat} {cs : List Char} :
    AtMost language rest (n + 1) cs ↔
      (∃ word more, cs = word ++ more ∧ language word ∧
        if more.length = cs.length then rest more else AtMost language rest n more) ∨
      rest cs := by
  constructor
  · rintro ⟨words, tail, rfl, each, bound, htail⟩
    obtain ⟨words', flat, each', some, fewer, -⟩ := exists_progressing each
    rw [← flat]
    cases words' with
    | nil => exact .inr htail
    | cons word words' =>
        obtain ⟨hword, later⟩ := List.forall_mem_cons.mp each'
        have length := List.length_pos_iff.mpr (some word List.mem_cons_self)
        refine .inl ⟨word, words'.flatten ++ tail, by simp, hword, ?_⟩
        rw [if_neg (by simp only [List.flatten_cons, List.length_append]; omega)]
        rw [List.length_cons] at fewer
        exact ⟨words', tail, rfl, later, by omega, htail⟩
  · rintro (⟨word, more, rfl, hword, hmore⟩ | h)
    · split_ifs at hmore with level
      · obtain rfl : word = [] := by
          rw [List.length_append] at level
          exact List.length_eq_zero_iff.mp (by omega)
        exact ⟨[], more, rfl, by simp, Nat.zero_le _, hmore⟩
      · obtain ⟨words, tail, rfl, each, bound, htail⟩ := hmore
        refine ⟨word :: words, tail, by simp, ?_, Nat.succ_le_succ bound, htail⟩
        exact List.forall_mem_cons.mpr ⟨hword, each⟩
    · exact ⟨[], cs, rfl, by simp, Nat.zero_le _, h⟩

/-- Greedy rounds are any number of rounds up to their bound. -/
theorem Reads.greedyRounds (reads : Reads text body language) (accepts : Accepts text k rest)
    (n : Nat) : Accepts text (greedyRounds body k n) (AtMost language rest n) := by
  induction n with
  | zero =>
      refine accepts.congr fun cs => ?_
      constructor
      · intro h
        exact ⟨[], cs, rfl, by simp, Nat.le_refl 0, h⟩
      · rintro ⟨words, tail, rfl, -, none, h⟩
        rw [List.length_eq_zero_iff.mp (Nat.le_zero.mp none)]
        exact h
  | succ n ih =>
      intro s inside
      -- a round that has moved on is followed by others, one that has not by what follows them all
      have going : Accepts text
          (fun t => if t.position = s.position then k t else Pattern.greedyRounds body k n t)
          fun cs => if cs.length = (text.drop s.position).length then rest cs else
            AtMost language rest n cs := by
        intro t within
        have level : t.position = s.position ↔
            (text.drop t.position).length = (text.drop s.position).length := by
          rw [List.length_drop, List.length_drop]
          omega
        dsimp only
        by_cases same : t.position = s.position
        · rw [if_pos same, if_pos (level.mp same)]
          exact accepts t within
        · rw [if_neg same, if_neg (mt level.mpr same)]
          exact ih t within
      have step : (Pattern.greedyRounds body k (n + 1) s).isSome = true ↔
          (body s fun t => if t.position = s.position then k t
            else Pattern.greedyRounds body k n t).isSome = true ∨ (k s).isSome = true := by
        rw [Pattern.greedyRounds]
        split
        · rename_i found
          simp [found]
        · rename_i none
          simp [none]
      rw [step, reads going s inside, accepts s inside, atMost_succ_iff]

/-- A number of rounds in a row. -/
theorem Reads.fixedRounds (reads : Reads text body language) (accepts : Accepts text k rest)
    (n : Nat) :
    Accepts text (fixedRounds body k n) fun cs => ∃ words tail, cs = List.flatten words ++ tail ∧
      (∀ w ∈ words, language w) ∧ words.length = n ∧ rest tail := by
  induction n with
  | zero =>
      refine accepts.congr fun cs => ?_
      constructor
      · intro h
        exact ⟨[], cs, rfl, by simp, rfl, h⟩
      · rintro ⟨words, tail, rfl, -, none, h⟩
        rw [List.length_eq_zero_iff.mp none]
        exact h
  | succ n ih =>
      refine (reads ih).congr fun cs => ?_
      constructor
      · rintro ⟨word, _, rfl, hword, words, tail, rfl, each, count, htail⟩
        refine ⟨word :: words, tail, by simp, ?_, by simp [count], htail⟩
        exact List.forall_mem_cons.mpr ⟨hword, each⟩
      · rintro ⟨words, tail, rfl, each, count, htail⟩
        obtain ⟨word, words, rfl⟩ := List.exists_cons_of_length_eq_add_one count
        obtain ⟨hword, later⟩ := List.forall_mem_cons.mp each
        exact ⟨word, words.flatten ++ tail, by simp, hword, words, tail, rfl, later,
          by simpa using count, htail⟩

/-- To repeat is to take the least number of words first and then those that may follow. -/
theorem repeats_iff {least : Nat} {most : Option Nat} (ordered : ∀ m ∈ most, least ≤ m)
    {cs : List Char} :
    (∃ word tail, cs = word ++ tail ∧ Repeats language least most word ∧ rest tail) ↔
      ∃ first more, cs = List.flatten first ++ more ∧ (∀ w ∈ first, language w) ∧
        first.length = least ∧
        ∃ words tail, more = List.flatten words ++ tail ∧ (∀ w ∈ words, language w) ∧
          (∀ m ∈ most, words.length ≤ m - least) ∧ rest tail := by
  constructor
  · rintro ⟨_, tail, rfl, ⟨words, rfl, each, enough, bound⟩, htail⟩
    refine ⟨words.take least, (words.drop least).flatten ++ tail, ?_, ?_, ?_, words.drop least,
      tail, rfl, ?_, ?_, htail⟩
    · rw [← List.append_assoc, ← List.flatten_append, List.take_append_drop]
    · exact fun w mem => each w (List.mem_of_mem_take mem)
    · exact List.length_take_of_le enough
    · exact fun w mem => each w (List.mem_of_mem_drop mem)
    · intro m mem
      have := bound m mem
      rw [List.length_drop]
      omega
  · rintro ⟨first, _, rfl, hfirst, count, words, tail, rfl, each, bound, htail⟩
    refine ⟨(first ++ words).flatten, tail, by simp, ⟨first ++ words, rfl, ?_, ?_, ?_⟩, htail⟩
    · exact List.forall_mem_append.mpr ⟨hfirst, each⟩
    · rw [List.length_append]
      omega
    · intro m mem
      have := bound m mem
      have := ordered m mem
      rw [List.length_append]
      omega

/-- A greedy repetition reads as many words in a row as it may have rounds. -/
theorem Reads.rounds {least : Nat} {most : Option Nat} (reads : Reads text body language)
    (ordered : ∀ m ∈ most, least ≤ m) :
    Reads text (rounds (codes text) .greedy least most body) (Repeats language least most) := by
  intro k rest accepts
  let extra (t : Cursor) : Nat :=
    match most with
    | some m => min (m - least) ((codes text).size - t.position + 1)
    | none => (codes text).size - t.position + 1
  -- the bound on the rounds by the characters that are left is no restriction
  have more : Accepts text (fun t => Pattern.greedyRounds body k (extra t) t) fun cs =>
      ∃ words tail, cs = List.flatten words ++ tail ∧ (∀ w ∈ words, language w) ∧
        (∀ m ∈ most, words.length ≤ m - least) ∧ rest tail := by
    intro t inside
    refine (reads.greedyRounds accepts (extra t) t inside).trans ?_
    constructor
    · rintro ⟨words, tail, split, each, bound, htail⟩
      refine ⟨words, tail, split, each, ?_, htail⟩
      rintro m rfl
      exact Nat.le_trans bound (Nat.min_le_left _ _)
    · rintro ⟨words, tail, split, each, bound, htail⟩
      obtain ⟨words', flat, each', -, fewer, short⟩ := exists_progressing each
      refine ⟨words', tail, by rw [flat, split], each', ?_, htail⟩
      have left := congrArg List.length split
      rw [List.length_drop, List.length_append] at left
      simp only [extra, size_codes]
      cases most with
      | none => simp only; omega
      | some m =>
          have := bound m rfl
          simp only
          omega
  have all : (fun s => Pattern.rounds (codes text) .greedy least most body s k) =
      Pattern.fixedRounds body (fun t => Pattern.greedyRounds body k (extra t) t) least := by
    cases most with
    | none => rfl
    | some m => rfl
  rw [all]
  exact (reads.fixedRounds more least).congr fun cs => (repeats_iff ordered).symm

end Reading

/-! ### Patterns -/

section Patterns

variable {text word : List Char} {f : Flags}

theorem denotes_sequence_nil_iff : (Node.sequence []).Denotes f word ↔ word = [] := by
  constructor
  · rintro ⟨⟩
    rfl
  · rintro rfl
    exact .done

theorem denotes_sequence_cons_iff {n : Node} {nodes : List Node} :
    (Node.sequence (n :: nodes)).Denotes f word ↔
      ∃ u v, word = u ++ v ∧ n.Denotes f u ∧ (Node.sequence nodes).Denotes f v := by
  constructor
  · intro h
    cases h with
    | next first later => exact ⟨_, _, rfl, first, later⟩
  · rintro ⟨u, v, rfl, first, later⟩
    exact .next first later

theorem denotes_choice_iff {branches : List Node} :
    (Node.choice branches).Denotes f word ↔ ∃ n ∈ branches, n.Denotes f word := by
  constructor
  · intro h
    cases h with
    | choice branch matched => exact ⟨_, branch, matched⟩
  · rintro ⟨n, branch, matched⟩
    exact .choice branch matched

theorem denotes_group_iff {on off : Flags} {index : Option Nat} {scripted : Bool} {body : Node} :
    (Node.group index on off scripted body).Denotes f word ↔
      body.Denotes (f.inside on off scripted) word := by
  constructor
  · intro h
    cases h with
    | group within => exact within
  · exact .group

theorem denotes_iteration_iff {greed : Greed} {least : Nat} {most : Option Nat} {body : Node} :
    (Node.iteration greed least most body).Denotes f word ↔
      Repeats (body.Denotes f) least most word := by
  constructor
  · intro h
    cases h with
    | @iteration _ _ _ _ _ words each enough bounded =>
        exact ⟨words, rfl, each, enough, bounded⟩
  · rintro ⟨words, rfl, each, enough, bounded⟩
    exact .iteration each enough bounded

theorem denotes_char_iff {c : Nat} :
    (Node.char c).Denotes f word ↔ ∃ d, word = [d] ∧ (f.fold c == f.fold d.toNat) = true := by
  constructor
  · intro h
    cases h with
    | @char _ _ d same => exact ⟨d, rfl, beq_iff_eq.mpr same⟩
  · rintro ⟨d, rfl, same⟩
    exact .char (beq_iff_eq.mp same)

theorem denotes_any_iff :
    Node.any.Denotes f word ↔ ∃ d, word = [d] ∧ (f.dotAll || d.toNat != 0x0a) = true := by
  constructor
  · intro h
    cases h with
    | @any _ d within => exact ⟨d, rfl, by simpa using within⟩
  · rintro ⟨d, rfl, within⟩
    exact .any (by simpa using within)

theorem denotes_set_iff {negated : Bool} {items : List Item} :
    (Node.set negated items).Denotes f word ↔
      ∃ d, word = [d] ∧ ((items.any fun i => i.holds f d.toNat) != negated) = true := by
  constructor
  · intro h
    cases h with
    | @set _ _ _ d chosen => exact ⟨d, rfl, bne_iff_ne.mpr chosen⟩
  · rintro ⟨d, rfl, chosen⟩
    exact .set (bne_iff_ne.mp chosen)

/-- Patterns that read what they denote, one after another, read what the sequence denotes. -/
theorem reads_runAll {nodes : List Node}
    (each : ∀ n ∈ nodes, Reads text (n.run (codes text) f) (n.Denotes f)) :
    Reads text (Node.runAll (codes text) f nodes) ((Node.sequence nodes).Denotes f) := by
  induction nodes with
  | nil => exact (reads_nothing text).congr fun word => denotes_sequence_nil_iff.symm
  | cons n nodes ih =>
      obtain ⟨first, later⟩ := List.forall_mem_cons.mp each
      exact (first.next (ih later)).congr fun word => denotes_sequence_cons_iff.symm

/-- Patterns that read what they denote, tried in turn, read what the choice denotes. -/
theorem reads_runFirst {branches : List Node}
    (each : ∀ n ∈ branches, Reads text (n.run (codes text) f) (n.Denotes f)) :
    Reads text (Node.runFirst (codes text) f branches) ((Node.choice branches).Denotes f) := by
  induction branches with
  | nil =>
      intro k rest accepts s inside
      simp [Node.runFirst, denotes_choice_iff]
  | cons n branches ih =>
      obtain ⟨first, later⟩ := List.forall_mem_cons.mp each
      have turns : Node.runFirst (codes text) f (n :: branches) =
          fun s k => (n.run (codes text) f s k).or (Node.runFirst (codes text) f branches s k) := by
        funext s k
        rw [Node.runFirst]
        cases n.run (codes text) f s k with
        | none => rfl
        | some r => rfl
      rw [turns]
      refine (first.or (ih later)).congr fun word => ?_
      simp [denotes_choice_iff]

/-- **The matcher misses nothing.** Run at a place of a text, a regular pattern finds a way for what
follows it exactly if the text goes on there with a word that the pattern denotes and then with
something that what follows accepts. -/
theorem Node.IsRegular.reads {n : Node} (regular : n.IsRegular) (text : List Char) (f : Flags) :
    Reads text (n.run (codes text) f) (n.Denotes f) := by
  induction regular generalizing f with
  | char c => exact (reads_step text _).congr fun word => denotes_char_iff.symm
  | any => exact (reads_step text _).congr fun word => denotes_any_iff.symm
  | set negated items => exact (reads_step text _).congr fun word => denotes_set_iff.symm
  | sequence each ih => exact reads_runAll fun n mem => ih n mem f
  | choice each ih => exact reads_runFirst fun n mem => ih n mem f
  | @group on off index scripted body within ih =>
      intro k rest accepts s inside
      have entered := ih (f.inside on off scripted)
      simp only [denotes_group_iff]
      cases index with
      | none => exact entered accepts s inside
      | some g =>
          -- what is captured on the way makes no difference to what is left of the text
          have captured : Accepts text
              (fun t => k { t with captures := (g, s.position, t.position) :: t.captures }) rest :=
            fun t inside => accepts { t with captures := _ } inside
          exact entered captured s inside
  | @iteration least most body ordered within ih =>
      exact ((ih f).rounds ordered).congr fun word => denotes_iteration_iff.symm

end Patterns

end RecordRules.Pattern
