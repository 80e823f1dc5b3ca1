/-!
Similar words.

Two words are compared by the blocks of characters that they share: the longest common block, and
then, again and again, the longest ones on either side of it. The similarity of the words is twice
the number of shared characters over the sum of their lengths. In a target of 200 characters or
more a character that makes up over a hundredth of the word does not start a block, although a
block may extend over it.
-/

namespace RecordRules.Similarity

/-- The word that candidates are compared with. -/
structure Target where
  characters : Array Char
  /-- The characters that start no block. -/
  popular : List Char

def Target.ofString (word : String) : Target :=
  let cs := word.toList
  let n := cs.length
  let limit := n / 100 + 1
  let popular := if 200 ≤ n then cs.eraseDups.filter fun c => limit < cs.count c else []
  ⟨cs.toArray, popular⟩

/-- A block shared by a candidate and the target. -/
structure Block where
  start : Nat
  targetStart : Nat
  size : Nat
deriving Repr

def window (x : Array Char) (lo hi : Nat) : List Char :=
  (x.toList.take hi).drop lo

/-- One row of the search: for each position of the target the length of the block that ends there
and at the candidate's character `c`, from the lengths for the character before it. -/
def row (t : Target) (c : Char) (previous : List Nat) (target : List Char) : List Nat :=
  List.zipWith (fun before d => if c = d ∧ !t.popular.contains d then before + 1 else 0)
    (0 :: previous) target

/-- The best block of a row, if it beats the best so far; earlier blocks win ties. -/
def bestOfRow (i lo : Nat) (best : Block) (lengths : List Nat) : Block :=
  (lengths.foldl (fun (acc : Block × Nat) k =>
    let (best, j) := acc
    (if best.size < k then ⟨i + 1 - k, j + 1 - k, k⟩ else best, j + 1)) (best, lo)).1

/-- The longest block that starts with unpopular characters throughout. -/
def longest (t : Target) (target : List Char) (lo : Nat) :
    List Char → Nat → List Nat → Block → Block
  | [], _, _, best => best
  | c :: rest, i, previous, best =>
    let lengths := row t c previous target
    longest t target lo rest (i + 1) lengths (bestOfRow i lo best lengths)

/-- How many of the characters before two positions agree, going backwards. -/
def agreeBefore : List Char → List Char → Nat
  | c :: cs, d :: ds => if c = d then agreeBefore cs ds + 1 else 0
  | _, _ => 0

/-- The longest block inside two windows, extended in both directions over equal characters. -/
def findBlock (t : Target) (x : Array Char) (alo ahi blo bhi : Nat) : Block :=
  let target := window t.characters blo bhi
  let found := longest t target blo (window x alo ahi) alo (target.map fun _ => 0) ⟨alo, blo, 0⟩
  let before := agreeBefore (window x alo found.start).reverse
    (window t.characters blo found.targetStart).reverse
  let after := agreeBefore (window x (found.start + found.size) ahi)
    (window t.characters (found.targetStart + found.size) bhi)
  ⟨found.start - before, found.targetStart - before, found.size + before + after⟩

/-- The number of characters in the shared blocks of two windows. Each block shortens the windows
on either side, so the width of the candidate's window bounds the search. -/
def shared (t : Target) (x : Array Char) : Nat → Nat → Nat → Nat → Nat → Nat
  | 0, _, _, _, _ => 0
  | fuel + 1, alo, ahi, blo, bhi =>
    let b := findBlock t x alo ahi blo bhi
    if b.size = 0 then 0
    else
      b.size +
        (if alo < b.start ∧ blo < b.targetStart then shared t x fuel alo b.start blo b.targetStart
          else 0) +
        (if b.start + b.size < ahi ∧ b.targetStart + b.size < bhi then
          shared t x fuel (b.start + b.size) ahi (b.targetStart + b.size) bhi else 0)

/-- A candidate with its similarity, a quotient of two numbers. -/
structure Match where
  word : String
  numerator : Nat
  denominator : Nat
deriving Repr

/-- The similarity of a candidate; two empty words are fully similar. -/
def matchOf (t : Target) (word : String) : Match :=
  let x := word.toList.toArray
  let total := x.size + t.characters.size
  if total = 0 then ⟨word, 1, 1⟩
  else ⟨word, 2 * shared t x (x.size + 1) 0 x.size 0 t.characters.size, total⟩

/-- Whether a similarity reaches three fifths. -/
def Match.isClose (m : Match) : Bool :=
  3 * m.denominator ≤ 5 * m.numerator

/-- Whether one match comes before another: the more similar first, and of equally similar words
the greater one. -/
def Match.before (a b : Match) : Bool :=
  let l := a.numerator * b.denominator
  let r := b.numerator * a.denominator
  r < l || (l == r && b.word < a.word)

/-- At most three of the candidates that are close to a word, the best first. -/
def suggestions (word : String) (candidates : List String) : List String :=
  let t := Target.ofString word
  let close := (candidates.map (matchOf t)).filter Match.isClose
  ((close.mergeSort fun a b => !(b.before a)).take 3).map Match.word

end RecordRules.Similarity
