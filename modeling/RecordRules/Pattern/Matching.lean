import RecordRules.Pattern.Syntax
import RecordRules.Text.Blank
import RecordRules.Text.Casing
import RecordRules.Text.Character

/-!
Matching text against patterns.

A pattern is run from a position with a continuation that says what has to match after it. Choices
are tried in their order, and the first way in which the pattern and its continuation both succeed
is the match. A repetition that has matched no character does not go round again, so the number of
rounds is bounded by the characters that are left.
-/

namespace RecordRules.Pattern

/-- A position in the text and what the groups have captured: start and end for each number. -/
structure Cursor where
  position : Nat
  captures : List (Nat × Nat × Nat)

/-- What is to match after a pattern. -/
abbrev Continuation := Cursor → Option Cursor

def Cursor.capture? (s : Cursor) (g : Nat) : Option (Nat × Nat) :=
  s.captures.lookup g

/-- The representative of a character under the modes. -/
def Flags.fold (f : Flags) (c : Nat) : Nat :=
  if f.ignoreCase then (if f.ascii then Text.asciiFold c else Text.fold c) else c

def Flags.variants (f : Flags) (c : Nat) : List Nat :=
  if f.ignoreCase then (if f.ascii then Text.asciiVariants c else Text.variants c) else [c]

def CharClass.holds (ascii : Bool) (c : Nat) : CharClass → Bool
  | .digit => if ascii then Text.isAsciiDigit c else Text.isDigit c
  | .space => if ascii then Text.isAsciiBlank c else Text.isBlank c
  | .word => if ascii then Text.isAsciiWord c else Text.isWord c

def Item.holds (f : Flags) (c : Nat) : Item → Bool
  | .char d => (f.variants c).contains d
  | .range lo hi => (f.variants c).any fun v => lo ≤ v && v ≤ hi
  | .named cls negated => cls.holds f.ascii c != negated

def wordAt (f : Flags) (text : Array Nat) (i : Nat) : Bool :=
  match text[i]? with
  | some c => CharClass.word.holds f.ascii c
  | none => false

def atBoundary (f : Flags) (text : Array Nat) (i : Nat) : Bool :=
  (i != 0 && wordAt f text (i - 1)) != wordAt f text i

/-- Whether an anchor holds at a position. No boundary of either kind lies in an empty text. -/
def Anchor.holds (f : Flags) (text : Array Nat) (i : Nat) : Anchor → Bool
  | .lineStart => i == 0 || (f.multiline && text[i - 1]? == some 0x0a)
  | .lineEnd =>
    i == text.size || (text[i]? == some 0x0a && (f.multiline || i + 1 == text.size))
  | .textStart => i == 0
  | .textEnd => i == text.size
  | .boundary => text.size != 0 && atBoundary f text i
  | .noBoundary => text.size != 0 && !atBoundary f text i

/-- Consumes one character that passes a test. -/
def step (text : Array Nat) (test : Nat → Bool) (s : Cursor) (k : Continuation) : Option Cursor :=
  match text[s.position]? with
  | some c => if test c then k { s with position := s.position + 1 } else none
  | none => none

/-- Up to `n` more rounds, as many as possible first. -/
def greedyRounds (body : Cursor → Continuation → Option Cursor) (k : Continuation) :
    Nat → Cursor → Option Cursor
  | 0, s => k s
  | n + 1, s =>
    match body s fun t => if t.position = s.position then k t else greedyRounds body k n t with
    | some r => some r
    | none => k s

/-- Up to `n` more rounds, as few as possible first. -/
def lazyRounds (body : Cursor → Continuation → Option Cursor) (k : Continuation) :
    Nat → Cursor → Option Cursor
  | 0, s => k s
  | n + 1, s =>
    match k s with
    | some r => some r
    | none => body s fun t => if t.position = s.position then k t else lazyRounds body k n t

/-- Exactly `n` rounds before what follows. -/
def fixedRounds (body : Cursor → Continuation → Option Cursor) (k : Continuation) :
    Nat → Cursor → Option Cursor
  | 0, s => k s
  | n + 1, s => body s (fixedRounds body k n)

def rounds (text : Array Nat) (greed : Greed) (least : Nat) (most : Option Nat)
    (body : Cursor → Continuation → Option Cursor) (s : Cursor) (k : Continuation) :
    Option Cursor :=
  let extra (t : Cursor) : Nat :=
    let left := text.size - t.position + 1
    match most with
    | some m => min (m - least) left
    | none => left
  match greed with
  | .greedy => fixedRounds body (fun t => greedyRounds body k (extra t) t) least s
  | .lazy => fixedRounds body (fun t => lazyRounds body k (extra t) t) least s
  | .possessive =>
    match fixedRounds body (fun t => greedyRounds body some (extra t) t) least s with
    | some t => k t
    | none => none

/-- Whether the text at a position repeats a captured piece. -/
def repeats (f : Flags) (text : Array Nat) (first stop position : Nat) : Bool :=
  position + (stop - first) ≤ text.size &&
    (List.range (stop - first)).all fun i =>
      (text[first + i]?).map f.fold == (text[position + i]?).map f.fold

mutual

def Node.run (text : Array Nat) (f : Flags) : Node → Cursor → Continuation → Option Cursor
  | .char c, s, k => step text (fun d => f.fold c == f.fold d) s k
  | .any, s, k => step text (fun d => f.dotAll || d != 0x0a) s k
  | .set negated items, s, k =>
    step text (fun d => (items.any fun i => i.holds f d) != negated) s k
  | .anchor a, s, k => if a.holds f text s.position then k s else none
  | .sequence nodes, s, k => Node.runAll text f nodes s k
  | .choice branches, s, k => Node.runFirst text f branches s k
  | .group index on off scripted body, s, k =>
    let base := if scripted then { f with ascii := false } else f
    Node.run text ((base.union on).minus off) body s fun t =>
      match index with
      | some g => k { t with captures := (g, s.position, t.position) :: t.captures }
      | none => k t
  | .atomic body, s, k =>
    match Node.run text f body s some with
    | some t => k t
    | none => none
  | .look ahead positive width body, s, k =>
    let start? := if ahead then some s.position
      else if width ≤ s.position then some (s.position - width) else none
    let found := match start? with
      | some i => Node.run text f body { s with position := i } some
      | none => none
    match found, positive with
    | some t, true => k { t with position := s.position }
    | none, false => k s
    | _, _ => none
  | .reference g, s, k =>
    match s.capture? g with
    | some (a, b) =>
      if repeats f text a b s.position then k { s with position := s.position + (b - a) } else none
    | none => none
  | .conditional g yes no, s, k =>
    if (s.capture? g).isSome then Node.run text f yes s k else Node.run text f no s k
  | .iteration greed least most body, s, k =>
    rounds text greed least most (fun t j => Node.run text f body t j) s k

def Node.runAll (text : Array Nat) (f : Flags) :
    List Node → Cursor → Continuation → Option Cursor
  | [], s, k => k s
  | n :: rest, s, k => Node.run text f n s fun t => Node.runAll text f rest t k

def Node.runFirst (text : Array Nat) (f : Flags) :
    List Node → Cursor → Continuation → Option Cursor
  | [], _, _ => none
  | n :: rest, s, k =>
    match Node.run text f n s k with
    | some r => some r
    | none => Node.runFirst text f rest s k

end

def Compiled.matchesWhole (p : Compiled) (text : String) : Bool :=
  let cs := (text.toList.map Char.toNat).toArray
  (p.root.run cs p.flags ⟨0, []⟩ fun s => if s.position = cs.size then some s else none).isSome

end RecordRules.Pattern
