import RecordRules.Proofs.Predicate.Plain

/-!
The predicates that ask for an order.

Such a predicate is about any data, also numbers that are not a number and values that have no order
with its parameter. Values without an order are meant to fail it, and they do where asking is a
fault of their types. But decimal numbers refuse to be compared with what is not a number in a way
of their own, and this fault is let through. `Relation.test_in_order` says that it is the only one,
and where it happens.
-/

namespace RecordRules

namespace Value

/-- Data that holds no other values. -/
inductive IsDatum : Value → Prop where
  | none : IsDatum .none
  | bool (b : Bool) : IsDatum (.bool b)
  | int (i : Int) : IsDatum (.int i)
  | float (tag : Nat) (x : Number.Binary) : IsDatum (.float tag x)
  | decimal (tag : Nat) (x : Number.Decimal) : IsDatum (.decimal tag x)
  | complex (tag : Nat) (re im : Number.Binary) : IsDatum (.complex tag re im)
  | text (label : Label) : IsDatum (.text label)
  | bytes (mutable : Bool) (content : List UInt8) : IsDatum (.bytes mutable content)
  | date (d : Calendar.Date) : IsDatum (.date d)
  | moment (m : Calendar.Moment) : IsDatum (.moment m)
  | time (t : Calendar.Time) : IsDatum (.time t)

/-- Data, and collections of data. -/
abbrev IsData : Value → Prop := BuiltFrom IsDatum

def isNan (v : Value) : Bool := v.quantity?.any Quantity.isNan

/-- Data in which a test holds of nothing that it is built from. -/
abbrev IsDataWithout (test : Value → Bool) : Value → Prop :=
  BuiltFrom fun v => v.IsDatum ∧ test v = false

section Data

variable {v w : Value}

theorem IsDatum.isCalm (datum : v.IsDatum) : v.IsCalm := by
  cases datum <;> exact ⟨rfl, rfl⟩

theorem IsData.isCalm (data : v.IsData) : v.BuiltFrom IsCalm :=
  data.mono fun _ => IsDatum.isCalm

theorem isNan_of_quantity? {q : Quantity} (number : v.quantity? = some q) : v.isNan = q.isNan := by
  rw [isNan, number, Option.any_some]

/-- A number that cannot be compared is decimal and not a number. -/
theorem isQuiet_of_not (other : v.isNan = false ∨ v.isDecimal = false) : v.IsQuiet := by
  intro q number
  rcases other with number' | binary
  · rw [isNan_of_quantity? number] at number'
    exact Quantity.isSignaling_of_number number'
  · cases v with
    | decimal => cases binary
    | float tag x =>
        cases number
        exact Quantity.isSignaling_ofBinary x
    | _ => cases number <;> rfl

/-- Nothing is refused among data that is built without anything that is not a number. -/
theorem IsDataWithout.not_refuseOrder_of_numbers (left : v.IsDataWithout isNan)
    (right : w.IsDataWithout isNan) : ¬ RefuseOrder v w := by
  refine left.not_refuseOrder (fun _ x => x.1.isCalm) (fun _ x => isQuiet_of_not (.inl x.2)) ?_
    right
  rintro x y ⟨-, x_number⟩ ⟨-, y_number⟩ ⟨-, a, b, number, number', nan⟩
  rw [← isNan_of_quantity? number, ← isNan_of_quantity? number', x_number, y_number] at nan
  exact nan.elim nofun nofun

/-- Nothing is refused among data that is built without decimal numbers. -/
theorem IsDataWithout.not_refuseOrder_of_binary (left : v.IsDataWithout isDecimal)
    (right : w.IsDataWithout isDecimal) : ¬ RefuseOrder v w := by
  refine left.not_refuseOrder (fun _ x => x.1.isCalm) (fun _ x => isQuiet_of_not (.inr x.2)) ?_
    right
  rintro x y ⟨-, x_binary⟩ ⟨-, y_binary⟩ ⟨decimal, -⟩
  rw [x_binary, y_binary] at decimal
  exact decimal.elim nofun nofun

theorem HaveOrder.isMissing (order : HaveOrder v w) : v.isMissing = false := by
  cases order with
  | numbers left => cases v <;> first | rfl | cases left
  | ended s | later s | here s => cases s <;> rfl
  | _ => rfl

theorem RefuseOrder.isMissing (refuse : RefuseOrder v w) : v.isMissing = false := by
  cases refuse with
  | numbers refuse =>
      obtain ⟨-, a, b, left, -⟩ := refuse
      cases v <;> first | rfl | cases left
  | later s | here s | unequatable s => cases s <;> rfl

end Data

end Value

namespace Relation

def builtin : Relation → Builtin
  | .lt => .lt
  | .le => .lteq
  | .gt => .gt
  | .ge => .gteq

variable {r : Relation} {v param : Value}

theorem test_builtin (r : Relation) (v : Value) (params : List Value) :
    r.builtin.test v params = Builtin.isOrdered r v params := by
  cases r <;> rfl

theorem test_builtin_of_present (present : v.isMissing = false) :
    r.builtin.test v [param] = noOnTypeFault (v.ordered r param) := by
  rw [test_builtin, Builtin.isOrdered, if_neg (Bool.eq_false_iff.mp present)]

theorem test_builtin_of_missing (missing : v.isMissing = true) :
    r.builtin.test v [param] = .ok false := by
  rw [test_builtin, Builtin.isOrdered, if_pos missing]

end Relation

/-- Where the order is settled, a fault of types means no. -/
theorem Value.Settled.noOnTypeFault {v w : Value} {x : Except Fault Bool}
    (settled : Value.Settled v w x) :
    ∃ answer, RecordRules.noOnTypeFault x = .ok answer ∧ (answer = true → v.HaveOrder w) := by
  obtain ⟨answer, answered⟩ := settled.faults.noOnTypeFault_answers
  refine ⟨answer, answered, ?_⟩
  rintro rfl
  cases x with
  | ok b =>
      cases answered
      exact settled.order rfl
  | error f =>
      rw [RecordRules.noOnTypeFault, if_pos (settled.faults f rfl)] at answered
      cases answered

namespace Relation

/-- **What has no order fails, unless asking is refused.** About any data and with any data as its
parameter, a predicate that asks for an order comes to an answer, unless the order of the two is
refused: then it faults. The answer is no for all four relations if the two have no order, and yes
for one of them if they have one. Nothing is refused if there is nothing among the two that is not a
number, or if there is no decimal number. -/
theorem test_in_order {v param : Value} (data : v.IsData) (paramData : param.IsData) :
    (¬ v.RefuseOrder param → ∀ r : Relation, ∃ answer,
      r.builtin.test v [param] = .ok answer ∧ (¬ v.HaveOrder param → answer = false)) ∧
    (v.HaveOrder param → ∃ r : Relation, r.builtin.test v [param] = .ok true) ∧
    (v.RefuseOrder param → ∀ r : Relation,
      r.builtin.test v [param] = .error .refusedComparison) ∧
    (v.IsDataWithout Value.isNan ∧ param.IsDataWithout Value.isNan ∨
      v.IsDataWithout Value.isDecimal ∧ param.IsDataWithout Value.isDecimal →
      ¬ v.RefuseOrder param) := by
  refine ⟨fun accepted r => ?_, fun order => ?_, fun refuse r => ?_, fun free => ?_⟩
  · cases missing : v.isMissing with
    | true => exact ⟨false, test_builtin_of_missing missing, fun _ => rfl⟩
    | false =>
        have settled := data.isCalm.ordered_settled (r := r) paramData.isCalm accepted
        obtain ⟨answer, answered, order⟩ := settled.noOnTypeFault
        refine ⟨answer, (test_builtin_of_present missing).trans answered, fun none => ?_⟩
        exact Bool.eq_false_iff.mpr fun yes => none (order yes)
  · obtain ⟨r, yes⟩ := order.exists_ordered data.isCalm paramData.isCalm
    refine ⟨r, ?_⟩
    rw [test_builtin_of_present order.isMissing, yes]
    rfl
  · rw [test_builtin_of_present refuse.isMissing, refuse.ordered]
    rfl
  · rcases free with ⟨left, right⟩ | ⟨left, right⟩
    · exact Value.IsDataWithout.not_refuseOrder_of_numbers left right
    · exact Value.IsDataWithout.not_refuseOrder_of_binary left right

/-- Two prices, the second one decimal. -/
def prices : Value := .list [.int 1, .decimal 0 (.finite false 2 0)]

/-- An equal first price, and a second one that is not a number. -/
def unknownPrices : Value := .list [.decimal 1 (.finite false 10 (-1)), .float 2 .nan]

/-- The second prices meet, and their order is refused. -/
theorem test_in_order_prices :
    prices.IsData ∧ unknownPrices.IsData ∧ prices.RefuseOrder unknownPrices ∧
      Relation.gt.builtin.test prices [unknownPrices] = .error .refusedComparison := by
  have data : prices.IsData := .list <| List.forall_mem_cons.mpr
    ⟨.atom (.int 1), List.forall_mem_singleton.mpr (.atom (.decimal 0 _))⟩
  have data' : unknownPrices.IsData := .list <| List.forall_mem_cons.mpr
    ⟨.atom (.decimal 1 _), List.forall_mem_singleton.mpr (.atom (.float 2 _))⟩
  have last : Value.RefuseNumbers (.decimal 0 (.finite false 2 0)) (.float 2 .nan) :=
    ⟨.inl rfl, _, _, rfl, rfl, .inr rfl⟩
  have refuse : prices.RefuseOrder unknownPrices :=
    .later .list rfl (.here .list rfl (.numbers last))
  exact ⟨data, data', refuse, (test_in_order data data').2.2.1 refuse .gt⟩

/-- Not every test of an order comes to an answer: asked whether it is greater than a decimal that
is not a number, an integer makes it fault. -/
theorem not_test_answers : ¬ ∀ v param : Value, v.IsData → param.IsData →
    ∀ r : Relation, ∃ answer, r.builtin.test v [param] = .ok answer := by
  intro answers
  obtain ⟨answer, answered⟩ :=
    answers (.int 1) (.decimal 0 (.nan false false 0)) (.atom (.int 1)) (.atom (.decimal 0 _)) .gt
  cases answered

end Relation

end RecordRules
