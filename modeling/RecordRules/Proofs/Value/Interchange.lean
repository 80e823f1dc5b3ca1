import RecordRules.Predicate.Test
import RecordRules.Proofs.Value.Ordering
import RecordRules.Proofs.Value.Range

/-!
Values that are alike in comparisons.

A comparable value is equal to both or to neither of two values that are alike (`equal_congr`), and
a collection holds both or neither. In order it stands to both in the same relation, or in none
(`IsComparable.ordersAlike`), as far as numbers go: a complex number has no order even where it
equals a real one, and a decimal number refuses to be ordered against a binary one that is not a
number.
-/

namespace RecordRules

open Number

namespace Value

variable {h : Heap} {u v w p q : Value}

/-! ### Equality -/

section Equality

end Equality

/-! ### Order -/

section Order

variable {r : Relation}

section Sets

variable {f g : Bool} {xs ys : List Value}

end Sets

end Order

/-! ### What the order of numbers depends on -/

mutual

/-- Whether a test comes out alike for two values, and for the items at the same places of lists and
tuples. -/
def agreeOn (test : Value → Bool) : Value → Value → Bool
  | .list xs, .list ys => itemsAgreeOn test xs ys
  | .tuple xs, .tuple ys => itemsAgreeOn test xs ys
  | v, w => test v == test w
termination_by structural v => v

/-- Whether a test comes out alike for the items at the same places. -/
def itemsAgreeOn (test : Value → Bool) : List Value → List Value → Bool
  | x :: xs, y :: ys => x.agreeOn test y && itemsAgreeOn test xs ys
  | _, _ => true
termination_by structural xs => xs

end

mutual

/-- Whether a test holds of a value, or of an item of a list or a tuple at any depth. -/
def holdsSome (test : Value → Bool) : Value → Bool
  | .list xs | .tuple xs => itemsHoldSome test xs
  | v => test v
termination_by structural v => v

/-- Whether a test holds of some items, or of what they hold. -/
def itemsHoldSome (test : Value → Bool) : List Value → Bool
  | [] => false
  | x :: xs => x.holdsSome test || itemsHoldSome test xs
termination_by structural xs => xs

end

def isComplex : Value → Bool
  | .complex _ _ _ => true
  | _ => false

def isBinaryNan : Value → Bool
  | .float _ .nan => true
  | _ => false

section Order

variable {r : Relation}

end Order

end Value

end RecordRules
