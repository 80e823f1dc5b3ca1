import RecordRules.Text.Casing
import RecordRules.Text.Encoding
import RecordRules.Value.Quantity

/-!
Settings from values.

A switch may be given as a truth value, as a number that rounds to a binary zero or one, or by one
of a few words in letters of either case; the separator is given as text. All settings are looked
at before any problem is reported, in the order in which a configuration lists them, and unknown
ones are ignored.
-/

namespace RecordRules.Settings

structure Problem where
  kind : String
  setting : String
  message : String
deriving DecidableEq, Repr

def switchOfWord? (word : String) : Option Bool :=
  match Text.asciiLower word with
  | "0" | "off" | "f" | "false" | "n" | "no" => some false
  | "1" | "on" | "t" | "true" | "y" | "yes" => some true
  | _ => none

/-- The problem of a value that could be a switch but is not. -/
def unclearSwitch (setting : String) : Problem :=
  ⟨"bool_parsing", setting, "Input should be a valid boolean, unable to interpret input"⟩

def noSwitch (setting : String) : Problem :=
  ⟨"bool_type", setting, "Input should be a valid boolean"⟩

def switchOfInt (setting : String) (i : Int) : Except Problem Bool :=
  if i = 0 then .ok false
  else if i = 1 then .ok true
  else .error (unclearSwitch setting)

def switchOfText (setting : String) (word : String) : Except Problem Bool :=
  match switchOfWord? word with
  | some b => .ok b
  | none => .error (unclearSwitch setting)

/-- The integer that a number is when it is read as a binary fraction. -/
def roundedInt? : Value → Option Int
  | .float _ x => (Quantity.ofBinary x).toInt?
  | .decimal _ (.finite negative c e) =>
    (Quantity.ofBinary (Number.Binary.ofDecimal negative c e)).toInt?
  | _ => none

def switchOf (setting : String) (v : Value) : Except Problem Bool :=
  match v with
  | .bool b => .ok b
  | .int i => switchOfInt setting i
  | .text label => switchOfText setting label.text
  | .bytes false content =>
    match Text.decodeUtf8 content with
    | .ok word => switchOfText setting word
    | .error _ => .error (unclearSwitch setting)
  | _ =>
    match roundedInt? v with
    | some i => switchOfInt setting i
    | none => .error (noSwitch setting)

/-- The separator that a value stands for: text that is not empty. -/
def separatorOf (setting : String) (v : Value) : Except Problem String :=
  let checked (s : String) : Except Problem String :=
    if s.isEmpty then
      .error ⟨"string_too_short", setting, "String should have at least 1 character"⟩
    else .ok s
  match v with
  | .text label => checked label.text
  | .bytes _ content =>
    match Text.decodeUtf8 content with
    | .ok s => checked s
    | .error _ =>
      .error ⟨"string_unicode", setting,
        "Input should be a valid string, unable to parse raw data as a unicode string"⟩
  | _ => .error ⟨"string_type", setting, "Input should be a valid string"⟩

def problemOf {α : Type} : Except Problem α → List Problem
  | .ok _ => []
  | .error p => [p]

/-- The configuration of some settings; what is not set keeps its standard value. -/
def read (settings : List (String × Value)) : Except (List Problem) Config :=
  let get {α : Type} (setting : String) (standard : α) (reader : Value → Except Problem α) :
      Except Problem α :=
    match settings.lookup setting with
    | some v => reader v
    | none => .ok standard
  let nested := get "nested_paths" Config.standard.nestedPaths (switchOf "nested_paths")
  let separator :=
    get "path_separator" Config.standard.separator (separatorOf "path_separator")
  let failures := get "log_failures" Config.standard.logFailures (switchOf "log_failures")
  match nested, separator, failures with
  | .ok n, .ok s, .ok f => .ok ⟨n, s, f⟩
  | n, s, f => .error (problemOf n ++ problemOf s ++ problemOf f)

end RecordRules.Settings
