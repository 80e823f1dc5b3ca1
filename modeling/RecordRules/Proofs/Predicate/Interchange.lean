import RecordRules.Proofs.Expr.Hashing
import RecordRules.Proofs.Predicate.Missing
import RecordRules.Proofs.Registry.Lookup
import RecordRules.Proofs.Value.Interchange
import RecordRules.Proofs.Value.Membership

/-!
Parameters that are alike in tests.

A predicate of the library answers alike with parameters that are alike, if it accepts both
(`Builtin.test_congr`): what it accepts are classes, patterns, sizes and collections, or values that
it compares. Only the predicates that ask for an order tell numbers of different kinds apart.
-/

namespace RecordRules

open Number

namespace Builtin

variable {h : Heap} {v p q : Value}

/-! ### Classes, patterns and sizes -/

def orders : Builtin → Bool
  | .gt | .gteq | .lt | .lteq => true
  | _ => false

/-- Two lists of parameters have the same order to a value: complex numbers stand at the same
places, and so do decimal ones if the value holds a binary number that is not a number. -/
def SameOrder (v : Value) (params params' : List Value) : Prop :=
  Value.itemsAgreeOn Value.isComplex params params' = true ∧
    (v.holdsSome Value.isBinaryNan = false ∨
      Value.itemsAgreeOn Value.isDecimal params params' = true)

end Builtin

/-! ### Leaves -/

def Predicate.orders : Predicate → Bool
  | .builtin _ b => b.orders
  | .custom .. => false

/-- If a leaf asks for the order of a value, then another one has the same order to it. -/
def Leaf.SameOrder (v : Value) (l m : Leaf) : Prop :=
  l.1.orders = true → Builtin.SameOrder v l.2 m.2

end RecordRules
