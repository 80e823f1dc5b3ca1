import RecordRules.Text.Casing

/-!
The classes that a value can be tested against.

A class is written by its own name, or by its full name when it belongs to a module. A document
cannot hold a class, so it names one by a word, in letters of either case. Only the case of ASCII
letters counts: no other character has one of the words' letters as its small form.
-/

namespace RecordRules

/-- The classes of plain values, the abstract number classes, and those of mappings, records and
predicate names. -/
inductive Class where
  | int | str | float | bool | decimal | complex | bytes | bytearray | object | list | tuple | set
  | frozenset | dict | range | none | date | datetime | time | number | complexNumber | real
  | rational | integral | mapping | record | predicateName
deriving DecidableEq, Repr, Inhabited

namespace Class

def all : List Class :=
  [.int, .str, .float, .bool, .decimal, .complex, .bytes, .bytearray, .object, .list, .tuple, .set,
    .frozenset, .dict, .range, .none, .date, .datetime, .time, .number, .complexNumber, .real,
    .rational, .integral, .mapping, .record, .predicateName]

def name : Class → String
  | .int => "int"
  | .str => "str"
  | .float => "float"
  | .bool => "bool"
  | .decimal => "Decimal"
  | .complex => "complex"
  | .bytes => "bytes"
  | .bytearray => "bytearray"
  | .object => "object"
  | .list => "list"
  | .tuple => "tuple"
  | .set => "set"
  | .frozenset => "frozenset"
  | .dict => "dict"
  | .range => "range"
  | .none => "NoneType"
  | .date => "date"
  | .datetime => "datetime"
  | .time => "time"
  | .number => "Number"
  | .complexNumber => "Complex"
  | .real => "Real"
  | .rational => "Rational"
  | .integral => "Integral"
  | .mapping => "Mapping"
  | .record => "Rec"
  | .predicateName => "PredicateName"

def ofName? (s : String) : Option Class :=
  all.find? fun c => c.name == s

/-- The module that a class belongs to, with a final point. -/
def home : Class → String
  | .decimal => "decimal."
  | .date | .datetime | .time => "datetime."
  | .number | .complexNumber | .real | .rational | .integral => "numbers."
  | .mapping => "collections.abc."
  | .record => "__main__."
  | _ => ""

def text (c : Class) : String :=
  if c = .predicateName then "<enum 'PredicateName'>" else "<class '" ++ c.home ++ c.name ++ "'>"

/-- No class is left out of the list of all classes. -/
theorem mem_all (c : Class) : c ∈ all := by
  cases c <;> decide

/-! ### The words for classes in documents -/

def aliases : List (String × Class) :=
  [("string", .str), ("str", .str), ("text", .str), ("integer", .int), ("int", .int),
    ("float", .float), ("double", .float), ("decimal", .decimal), ("numeric", .decimal),
    ("boolean", .bool), ("bool", .bool), ("date", .date), ("datetime", .datetime),
    ("time", .time), ("list", .list), ("array", .list), ("dict", .dict), ("hash", .dict),
    ("object", .dict)]

def ofAlias? (word : String) : Option Class :=
  aliases.lookup (Text.asciiLower word)

/-- All words in alphabetical order. -/
def aliasList : String :=
  ", ".intercalate ((aliases.map (·.1)).mergeSort fun a b => !decide (b < a))

end Class

end RecordRules
