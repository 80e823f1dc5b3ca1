/-!
Blank characters, trimming and splitting.

`strip` removes the blanks from both ends, `splitOn` cuts text at every occurrence of a separator,
reading from the left; text without the separator is its own single part, and a separator at an
end or two in a row leave an empty part.
-/

namespace RecordRules.Text

/-- Spaces, tabs, line ends and the four information separators. -/
def isBlank (c : Nat) : Bool :=
  (0x09 ≤ c && c ≤ 0x0d) || (0x1c ≤ c && c ≤ 0x20) || c == 0x85 || c == 0xa0 || c == 0x1680 ||
    (0x2000 ≤ c && c ≤ 0x200a) || c == 0x2028 || c == 0x2029 || c == 0x202f || c == 0x205f ||
    c == 0x3000

/-- The blanks of ASCII that belong to `isBlank` and are no information separator. -/
def isAsciiBlank (c : Nat) : Bool :=
  (0x09 ≤ c && c ≤ 0x0d) || c == 0x20

/-- The characters without the blanks at either end. -/
def strip (cs : List Char) : List Char :=
  ((cs.dropWhile fun c => isBlank c.toNat).reverse.dropWhile fun c => isBlank c.toNat).reverse

/-- Text that is empty or holds blanks alone. -/
def isBlankText (s : String) : Bool :=
  s.toList.all fun c => isBlank c.toNat

/-- The parts of the remaining characters. `part` holds, in reverse, what has been read of the part
at hand, and `skip` counts the characters of a separator that are still to be passed over. An empty
separator occurs nowhere. -/
def splitParts (sep : List Char) : Nat → List Char → List Char → List (List Char)
  | _, part, [] => [part.reverse]
  | skip + 1, part, _ :: rest => splitParts sep skip part rest
  | 0, part, c :: rest =>
    if !sep.isEmpty && sep.isPrefixOf (c :: rest) then
      part.reverse :: splitParts sep (sep.length - 1) [] rest
    else splitParts sep 0 (c :: part) rest

/-- The parts of a text between the occurrences of a separator. -/
def splitOn (separator text : String) : List String :=
  (splitParts separator.toList 0 [] text.toList).map String.ofList

end RecordRules.Text
