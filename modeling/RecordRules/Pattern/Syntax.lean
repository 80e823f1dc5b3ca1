/-!
Text patterns as trees.

A pattern is built from characters, character sets and anchors by sequence, choice, repetition,
grouping, looking around and reference to what an earlier group has matched. `Flags` hold the modes
that change how the leaves match.
-/

namespace RecordRules.Pattern

structure Flags where
  ignoreCase : Bool
  multiline : Bool
  dotAll : Bool
  verbose : Bool
  ascii : Bool
deriving DecidableEq, Repr, Inhabited

def Flags.none : Flags := ⟨false, false, false, false, false⟩

def Flags.union (a b : Flags) : Flags :=
  ⟨a.ignoreCase || b.ignoreCase, a.multiline || b.multiline, a.dotAll || b.dotAll,
    a.verbose || b.verbose, a.ascii || b.ascii⟩

def Flags.minus (a b : Flags) : Flags :=
  ⟨a.ignoreCase && !b.ignoreCase, a.multiline && !b.multiline, a.dotAll && !b.dotAll,
    a.verbose && !b.verbose, a.ascii && !b.ascii⟩

inductive CharClass where
  | digit | space | word
deriving DecidableEq, Repr

inductive Item where
  | char (c : Nat)
  | range (lo hi : Nat)
  | named (cls : CharClass) (negated : Bool)
deriving DecidableEq, Repr

inductive Anchor where
  | lineStart | lineEnd | textStart | textEnd | boundary | noBoundary
deriving DecidableEq, Repr

/-- How a repetition chooses its count. -/
inductive Greed where
  | greedy | lazy | possessive
deriving DecidableEq, Repr

inductive Node where
  | char (c : Nat)
  | any
  | set (negated : Bool) (items : List Item)
  | anchor (a : Anchor)
  | sequence (nodes : List Node)
  | choice (branches : List Node)
  /-- A group, with its number when it captures, that turns modes on and off; `scripted` says that
  it picks between ASCII and full Unicode. -/
  | group (index : Option Nat) (on off : Flags) (scripted : Bool) (body : Node)
  | atomic (body : Node)
  | look (ahead positive : Bool) (width : Nat) (body : Node)
  | reference (group : Nat)
  | conditional (group : Nat) (yes no : Node)
  | iteration (greed : Greed) (least : Nat) (most : Option Nat) (body : Node)
deriving Repr, Inhabited

/-- The count from which on a repetition or a width is unbounded. -/
def unbounded : Nat := Nat.pow 2 64

mutual

/-- The least and greatest number of characters that a pattern matches, given the same for the
groups it refers to. -/
def Node.width (groups : Nat → Nat × Nat) : Node → Nat × Nat
  | .char _ | .any | .set _ _ => (1, 1)
  | .anchor _ | .look .. => (0, 0)
  | .sequence nodes => Node.totalWidth groups nodes
  | .choice branches => Node.commonWidth groups branches
  | .group _ _ _ _ body => body.width groups
  | .atomic body => body.width groups
  | .reference g => groups g
  | .conditional _ yes no =>
    let a := yes.width groups
    let b := no.width groups
    (min a.1 b.1, max a.2 b.2)
  | .iteration _ least most body =>
    let w := body.width groups
    (min unbounded (w.1 * least),
      match most with
      | some m => min unbounded (w.2 * m)
      | none => if w.2 = 0 then 0 else unbounded)

/-- The width of patterns that match one after another. -/
def Node.totalWidth (groups : Nat → Nat × Nat) : List Node → Nat × Nat
  | [] => (0, 0)
  | n :: rest =>
    let a := n.width groups
    let b := Node.totalWidth groups rest
    (min unbounded (a.1 + b.1), min unbounded (a.2 + b.2))

/-- The width of patterns one of which matches. -/
def Node.commonWidth (groups : Nat → Nat × Nat) : List Node → Nat × Nat
  | [] => (unbounded, 0)
  | n :: rest =>
    let a := n.width groups
    let b := Node.commonWidth groups rest
    (min a.1 b.1, max a.2 b.2)

end

mutual

def Node.same : Node → Node → Bool
  | .char c, .char d => c == d
  | .any, .any => true
  | .set negated items, .set negated' items' => negated == negated' && items == items'
  | .anchor a, .anchor b => a == b
  | .sequence nodes, .sequence nodes' | .choice nodes, .choice nodes' => Node.sameAll nodes nodes'
  | .group g on off scripted body, .group g' on' off' scripted' body' =>
    (g, on, off, scripted) == (g', on', off', scripted') && body.same body'
  | .atomic body, .atomic body' => body.same body'
  | .look ahead positive width body, .look ahead' positive' width' body' =>
    (ahead, positive, width) == (ahead', positive', width') && body.same body'
  | .reference g, .reference g' => g == g'
  | .conditional g yes no, .conditional g' yes' no' => g == g' && (yes.same yes' && no.same no')
  | .iteration greed least most body, .iteration greed' least' most' body' =>
    (greed, least, most) == (greed', least', most') && body.same body'
  | _, _ => false
termination_by structural n => n

def Node.sameAll : List Node → List Node → Bool
  | [], [] => true
  | n :: nodes, n' :: nodes' => n.same n' && Node.sameAll nodes nodes'
  | _, _ => false
termination_by structural nodes => nodes

end

mutual

/-- Patterns are the same tree when they are equal. -/
theorem Node.same_iff (n m : Node) : n.same m = true ↔ n = m := by
  cases n with
  | sequence nodes | choice nodes => cases m <;> simp [Node.same, Node.sameAll_iff nodes]
  | group _ _ _ _ body | atomic body | look _ _ _ body | iteration _ _ _ body =>
      cases m <;> simp [Node.same, Node.same_iff body, and_assoc]
  | conditional _ yes no => cases m <;> simp [Node.same, Node.same_iff yes, Node.same_iff no]
  | _ => cases m <;> simp [Node.same]
termination_by structural n

theorem Node.sameAll_iff (nodes nodes' : List Node) :
    Node.sameAll nodes nodes' = true ↔ nodes = nodes' := by
  cases nodes with
  | nil => cases nodes' <;> simp [Node.sameAll]
  | cons n nodes =>
      cases nodes' with
      | nil => simp [Node.sameAll]
      | cons n' nodes' => simp [Node.sameAll, Node.same_iff n, Node.sameAll_iff nodes]
termination_by structural nodes

end

instance : DecidableEq Node := fun n m => decidable_of_iff (n.same m = true) (Node.same_iff n m)

structure Compiled where
  source : String
  flags : Flags
  groups : Nat
  root : Node
deriving DecidableEq, Inhabited

/-- The letters of the modes, in the order in which they are listed. -/
def Flags.letters (f : Flags) : String :=
  (if f.ignoreCase then "i" else "") ++ (if f.multiline then "m" else "") ++
    (if f.dotAll then "s" else "") ++ (if f.verbose then "x" else "")

/-- The modes as a sum of powers of two; text that is not restricted to ASCII counts as a mode. -/
def Flags.number (f : Flags) : Nat :=
  (if f.ignoreCase then 2 else 0) + (if f.multiline then 8 else 0) + (if f.dotAll then 16 else 0) +
    (if f.verbose then 64 else 0) + (if f.ascii then 256 else 32)

end RecordRules.Pattern
