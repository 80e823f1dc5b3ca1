import RecordRules.Proofs.Path
import RecordRules.Proofs.Text.Splitting
import RecordRules.Proofs.Value.Entries
import RecordRules.Resolution

/-!
Walking along a path in two stretches.

A walk goes on from wherever it has come to, and from what is absent it comes to nothing else
(`Value.walk_append`). So a path of joined segments can be resolved up to any of them, and from
there for the rest (`Config.resolve_joined`): a fault on the way is the fault of the whole path, and
what is absent stays absent. Under dictionaries one inside the other, the path of their keys leads
to whatever stands there, also to nothing.
-/

namespace RecordRules

namespace Value

/-- A walk that starts at what is absent stays there. -/
theorem walk_absent (keys : List String) : Value.absent.walk keys = .ok .absent := by
  cases keys <;> rfl

theorem eq_absent_of_isAbsent {v : Value} (absent : v.isAbsent = true) : v = .absent := by
  cases v with
  | absent => rfl
  | _ => cases absent

/-- To walk along two stretches is to walk along the second from where the first one ends. -/
theorem walk_append (v : Value) (keys rest : List String) :
    v.walk (keys ++ rest) = v.walk keys >>= fun w => w.walk rest := by
  induction keys generalizing v with
  | nil => rfl
  | cons key keys ih =>
      rw [List.cons_append, walk, walk]
      cases v.lookup key with
      | error f => rfl
      | ok next =>
          rw [Except.ok_bind, Except.ok_bind]
          split
          · rename_i stops
            rw [eq_absent_of_isAbsent stops]
            exact (walk_absent rest).symm
          · exact ih next

/-- A value inside dictionaries, each with one key, the first key outermost. -/
def under (v : Value) : List String → Value
  | [] => v
  | key :: keys => .object [(key, v.under keys)]

theorem lookup_object (key : String) (v : Value) :
    (Value.object [(key, v)]).lookup key = .ok v := by
  have found : lookupKey (.ofString key) [(Value.ofString key, v)] = some v :=
    lookupKey_cons.trans (if_pos rfl)
  have step : (Value.object [(key, v)]).lookup key =
      .ok ((lookupKey (.ofString key) [(Value.ofString key, v)]).getD .absent) := rfl
  rw [step, found]
  rfl

/-- The keys of the dictionaries around a value lead to the value. -/
theorem walk_under (v : Value) (keys : List String) : (v.under keys).walk keys = .ok v := by
  induction keys with
  | nil => rfl
  | cons key keys ih =>
      rw [under, walk, lookup_object, Except.ok_bind]
      split
      · rename_i stops
        rw [eq_absent_of_isAbsent stops, walk_absent] at ih
        rw [eq_absent_of_isAbsent stops]
        exact ih
      · exact ih

end Value

namespace Config

def join (c : Config) (segments : List String) : Label :=
  .plain (c.separator.intercalate segments)

variable {c : Config}

/-- A path of joined segments is walked along these segments, when paths are walked at all. -/
theorem resolve_join (walks : c.nestedPaths = true) (separated : c.separator ≠ "")
    {segments : List String} (some : segments ≠ [])
    (each : ∀ s ∈ segments, Text.IsSegment c.separator s) (record : Value) :
    c.resolve record (c.join segments) = record.walk segments := by
  rw [resolve, Config.segments, if_pos walks]
  exact congrArg record.walk (Text.splitOn_intercalate separated some each)

/-- A path of joined segments is accepted. -/
theorem checkPath_join (separated : c.separator ≠ "") {segments : List String}
    (some : segments ≠ []) (each : ∀ s ∈ segments, Text.IsSegment c.separator s) :
    c.checkPath (c.join segments) = .ok () := by
  have parts : Text.splitOn c.separator (c.join segments).text = segments :=
    Text.splitOn_intercalate separated some each
  have full : hasEmptySegment c.separator (c.join segments).text = false := by
    refine hasEmptySegment_eq_false.mpr fun s mem => ?_
    rw [parts] at mem
    exact (each s mem).nonempty
  rw [checkPath, full, Bool.and_false]
  rfl

/-- **Paths compose.** When paths are walked, segments that are not empty and hold no character of
the separator make a path that is accepted, and the value at the path is found by going along the
first segments and on along the others from there. If the first stretch ends in a fault, so does the
whole path, and if it comes to what is absent, so does the whole path. From dictionaries one inside
the other, the path of their keys leads to the very value inside them. -/
theorem resolve_joined (walks : c.nestedPaths = true) (separated : c.separator ≠ "")
    {p q : List String} (first : p ≠ []) (second : q ≠ [])
    (each : ∀ s ∈ p ++ q, Text.IsSegment c.separator s) :
    c.checkPath (c.join (p ++ q)) = .ok () ∧
    (∀ record, c.resolve record (c.join (p ++ q)) =
      c.resolve record (c.join p) >>= fun v => c.resolve v (c.join q)) ∧
    (∀ record f, c.resolve record (c.join p) = .error f →
      c.resolve record (c.join (p ++ q)) = .error f) ∧
    (∀ record, c.resolve record (c.join p) = .ok .absent →
      c.resolve record (c.join (p ++ q)) = .ok .absent) ∧
    ∀ v : Value, c.resolve (v.under p) (c.join p) = .ok v := by
  obtain ⟨left, right⟩ := List.forall_mem_append.mp each
  have some : p ++ q ≠ [] := List.append_ne_nil_of_left_ne_nil first q
  have start := resolve_join walks separated first left
  have rest := resolve_join walks separated second right
  have composes (record : Value) : c.resolve record (c.join (p ++ q)) =
      c.resolve record (c.join p) >>= fun v => c.resolve v (c.join q) := by
    rw [resolve_join walks separated some each, start, Value.walk_append]
    exact congrArg (record.walk p >>= ·) (funext fun v => (rest v).symm)
  refine ⟨checkPath_join separated some each, composes, ?_, ?_, ?_⟩
  · intro record f fails
    rw [composes, fails, Except.error_bind]
  · intro record absent
    rw [composes, absent, Except.ok_bind, rest]
    exact Value.walk_absent q
  · intro v
    rw [start]
    exact v.walk_under p

/-- Paths with a separator of two characters. -/
def colons : Config := ⟨true, "::", false⟩

/-- A customer whose address cannot be read. -/
def lockedCustomer : Record where
  tag := 0
  label := "customer"
  attributes := [("name", .ofString "Ann")]
  slots := []
  properties := []
  failing := [("address", .ofMessage .runtime "locked")]
  hook := none
  length := none
  comparison := none

/-- Below an address that cannot be read the fault stays the same, below a name there is nothing,
and an explicit nothing is found where it stands. -/
theorem resolve_joined_colons :
    let order := Value.object [("customer", .record lockedCustomer)]
    colons.checkPath (.plain "customer::address::city") = .ok () ∧
      colons.resolve order (.plain "customer::address::city") =
        .error (.ofMessage .runtime "locked") ∧
      colons.resolve order (.plain "customer::name::first") = .ok .absent ∧
      colons.resolve (Value.none.under ["customer", "name"]) (.plain "customer::name") =
        .ok .none := by
  intro order
  have nonempty (key : String) (keys : List String) : key :: keys ≠ [] := List.cons_ne_nil _ _
  have city : ∀ s ∈ ["customer", "address"] ++ ["city"], Text.IsSegment colons.separator s := by
    decide
  have name : ∀ s ∈ ["customer", "name"] ++ ["first"], Text.IsSegment colons.separator s := by
    decide
  obtain ⟨accepted, -, faults, -⟩ :=
    resolve_joined (c := colons) rfl (by decide) (nonempty _ _) (nonempty _ _) city
  obtain ⟨-, composes, -, -, nested⟩ :=
    resolve_joined (c := colons) rfl (by decide) (nonempty _ _) (nonempty _ _) name
  have locked : colons.resolve order (colons.join ["customer", "address"]) =
      .error (.ofMessage .runtime "locked") := by
    refine (resolve_join rfl (by decide) (nonempty _ _) (fun s mem => city s ?_) order).trans rfl
    exact List.mem_append_left _ mem
  have named : colons.resolve order (colons.join ["customer", "name"]) = .ok (.ofString "Ann") := by
    refine (resolve_join rfl (by decide) (nonempty _ _) (fun s mem => name s ?_) order).trans rfl
    exact List.mem_append_left _ mem
  have ended : colons.resolve (.ofString "Ann") (colons.join ["first"]) = .ok .absent := by
    refine (resolve_join rfl (by decide) (nonempty _ _) (fun s mem => name s ?_) _).trans rfl
    exact List.mem_append_right _ mem
  refine ⟨accepted, faults order _ locked, ?_, nested .none⟩
  have found := composes order
  rw [named, Except.ok_bind, ended] at found
  exact found

end Config

end RecordRules
