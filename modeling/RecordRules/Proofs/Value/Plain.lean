import RecordRules.Value.Membership

/-!
Plain values.

A plain value is built by collections from atoms that cannot make a comparison fail: nothing, truth
values, numbers, text, bytes, days and times (`IsScalar`). The parameters of rules can also be
classes, patterns and ranges (`IsConstant`). Not-a-number is left out, as decimal numbers refuse to
be compared with it.
-/

namespace RecordRules

open Number

namespace Value

/-- A value that holds no other values and can be compared with any number. -/
inductive IsScalar : Value → Prop where
  | none : IsScalar .none
  | bool (b : Bool) : IsScalar (.bool b)
  | int (i : Int) : IsScalar (.int i)
  | float (tag : Nat) {x : Binary} (number : x ≠ .nan) : IsScalar (.float tag x)
  | decimal (tag : Nat) {x : Decimal} (number : x.isNan = false) : IsScalar (.decimal tag x)
  | text (label : Label) : IsScalar (.text label)
  | bytes (mutable : Bool) (content : List UInt8) : IsScalar (.bytes mutable content)
  | date (d : Calendar.Date) : IsScalar (.date d)
  | moment (m : Calendar.Moment) : IsScalar (.moment m)
  | time (t : Calendar.Time) : IsScalar (.time t)

/-- A scalar, a class, a pattern or a range. -/
inductive IsConstant : Value → Prop where
  | scalar {v : Value} (scalar : v.IsScalar) : IsConstant v
  | type (c : Class) : IsConstant (.type c)
  | validatorClass (name : String) (rules : RuleSet) (config : Config) :
      IsConstant (.validatorClass name rules config)
  | regex (p : Pattern.Compiled) : IsConstant (.regex p)
  | range (start stop step : Int) : IsConstant (.range start stop step)

/-- A value built from atoms by lists, tuples, sets and dictionaries. -/
inductive BuiltFrom (atom : Value → Prop) : Value → Prop where
  | atom {v : Value} (isAtom : atom v) : BuiltFrom atom v
  | list {items : List Value} (each : ∀ v ∈ items, BuiltFrom atom v) :
      BuiltFrom atom (.list items)
  | tuple {items : List Value} (each : ∀ v ∈ items, BuiltFrom atom v) :
      BuiltFrom atom (.tuple items)
  | set (frozen : Bool) {items : List Value} (each : ∀ v ∈ items, BuiltFrom atom v) :
      BuiltFrom atom (.set frozen items)
  | dict (readOnly : Bool) {entries : List (Value × Value)}
      (keys : ∀ e ∈ entries, BuiltFrom atom e.1) (values : ∀ e ∈ entries, BuiltFrom atom e.2) :
      BuiltFrom atom (.dict readOnly entries)

/-- Plain data: what is built from scalars. -/
abbrev IsPlain : Value → Prop := BuiltFrom IsScalar

/-- What plain rules are about: plain data that may also hold classes, patterns and ranges. -/
abbrev IsPlainParam : Value → Prop := BuiltFrom IsConstant

theorem BuiltFrom.mono {atom atom' : Value → Prop} (weaker : ∀ v, atom v → atom' v) {v : Value}
    (built : v.BuiltFrom atom) : v.BuiltFrom atom' := by
  induction built with
  | atom isAtom => exact .atom (weaker _ isAtom)
  | list _ ih => exact .list ih
  | tuple _ ih => exact .tuple ih
  | set frozen _ ih => exact .set frozen ih
  | dict readOnly _ _ keys values => exact .dict readOnly keys values

/-- A dictionary with keys of text is plain if its values are. -/
theorem IsPlain.object {entries : List (String × Value)} (values : ∀ e ∈ entries, e.2.IsPlain) :
    (object entries).IsPlain := by
  refine .dict false ?_ ?_
  · exact List.forall_mem_map.mpr fun e _ => .atom (.text (.plain e.1))
  · exact List.forall_mem_map.mpr values

theorem IsPlainParam.refusal?_eq_none {v : Value} (plain : v.IsPlainParam) :
    v.refusal? = .none := by
  cases plain with
  | atom constant =>
      cases constant with
      | scalar scalar => cases scalar <;> rfl
      | _ => rfl
  | _ => rfl

/-- Whatever number a plain value is, it can be compared. -/
theorem IsPlainParam.isNan_quantity {v : Value} (plain : v.IsPlainParam) {q : Quantity}
    (number : v.quantity? = some q) : q.isNan = false := by
  cases plain with
  | atom constant =>
      cases constant with
      | scalar scalar =>
          cases scalar with
          | float tag isNumber =>
              cases number
              rename_i x
              cases x with
              | nan => exact absurd rfl isNumber
              | _ => rfl
          | decimal tag isNumber =>
              cases number
              rename_i x
              cases x with
              | nan => cases isNumber
              | _ => rfl
          | _ => cases number <;> rfl
      | _ => cases number
  | _ => cases number

end Value

end RecordRules
