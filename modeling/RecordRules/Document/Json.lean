import RecordRules.Number.Binary
import RecordRules.Text.Encoding
import RecordRules.Value.Key

/-!
JSON text as values.

Beyond the standard, three words stand for the numbers that are not finite, and a control character
is refused only within a string. A numeral with a point or an exponent is a binary number, any other
one an integer. When a key is repeated, its last value counts.

A problem is told with the place where it was noticed. A reader answers with what it has read and
the characters behind that, so a problem remembers how many characters were left, and the place is
computed from that at the end.
-/

namespace RecordRules.Json

open RecordRules.Number

inductive Problem where
  /-- The text does not follow the grammar; so many characters were left at that place. -/
  | malformed (message : String) (left : Nat)
  /-- An integer has too many digits. -/
  | tooManyDigits (count : Nat)
deriving DecidableEq, Repr

/-- The blanks between the parts of a text. -/
def isSpace (c : Char) : Bool :=
  c == ' ' || c == '\t' || c == '\n' || c == '\r'

def skipSpace (cs : List Char) : List Char := cs.dropWhile isSpace

def hexValue? (c : Char) : Option Nat :=
  let n := c.toNat
  if 0x30 ≤ n ∧ n ≤ 0x39 then some (n - 0x30)
  else if 0x61 ≤ n ∧ n ≤ 0x66 then some (n - 0x57)
  else if 0x41 ≤ n ∧ n ≤ 0x46 then some (n - 0x37)
  else none

def fourHex? (cs : List Char) : Option Nat :=
  match cs.take 4 with
  | [a, b, c, d] => do
    return (((← hexValue? a) * 16 + (← hexValue? b)) * 16 + (← hexValue? c)) * 16 + (← hexValue? d)
  | _ => none

/-- The character that a letter stands for behind a backslash. -/
def escapeOf? : Char → Option Char
  | '"' => some '"'
  | '\\' => some '\\'
  | '/' => some '/'
  | 'b' => some '\x08'
  | 'f' => some '\x0c'
  | 'n' => some '\n'
  | 'r' => some '\r'
  | 't' => some '\t'
  | _ => none

/-- The character of an escape by code: `cs` stands behind the letter. Two escapes in a row that are
the halves of one character are read together. A code needs a character behind it. -/
def readCode (cs : List Char) : Except Problem (Char × List Char) :=
  if cs.length ≤ 4 then .error (.malformed "Invalid \\uXXXX escape" (cs.length + 1))
  else
    match fourHex? cs with
    | none => .error (.malformed "Invalid \\uXXXX escape" (cs.length + 1))
    | some high =>
      let rest := cs.drop 4
      if 0xd800 ≤ high ∧ high < 0xdc00 then
        match rest with
        | '\\' :: 'u' :: more =>
          if more.length ≤ 4 then .ok (Char.ofNat 0xfffd, rest)
          else
            match fourHex? more with
            | none => .error (.malformed "Invalid \\uXXXX escape" (more.length + 1))
            | some low =>
              if 0xdc00 ≤ low ∧ low < 0xe000 then
                .ok (Char.ofNat (0x10000 + (high - 0xd800) * 0x400 + (low - 0xdc00)), more.drop 4)
              else .ok (Char.ofNat 0xfffd, rest)
        | _ => .ok (Char.ofNat 0xfffd, rest)
      else if 0xdc00 ≤ high ∧ high < 0xe000 then .ok (Char.ofNat 0xfffd, rest)
      else .ok (Char.ofNat high, rest)

/-- The rest of a string, of which the characters in `acc` have been read; `opened` characters were
left at its opening quote. -/
def readString (opened : Nat) : Nat → List Char → List Char → Except Problem (String × List Char)
  | 0, _, _ => .error (.malformed "Unterminated string starting at" opened)
  | _ + 1, _, [] => .error (.malformed "Unterminated string starting at" opened)
  | _ + 1, acc, '"' :: cs => .ok (String.ofList acc.reverse, cs)
  | _ + 1, _, ['\\'] => .error (.malformed "Unterminated string starting at" opened)
  | fuel + 1, acc, '\\' :: 'u' :: cs => do
    let (c, rest) ← readCode cs
    readString opened fuel (c :: acc) rest
  | fuel + 1, acc, '\\' :: c :: cs =>
    match escapeOf? c with
    | some d => readString opened fuel (d :: acc) cs
    | none => .error (.malformed "Invalid \\escape" (cs.length + 2))
  | fuel + 1, acc, c :: cs =>
    if c.toNat < 0x20 then .error (.malformed "Invalid control character at" (cs.length + 1))
    else readString opened fuel (c :: acc) cs

/-- The exponent that starts some text, if one does: its text and what follows. -/
def spanExponent (cs : List Char) : List Char × List Char :=
  match cs with
  | e :: rest =>
    if e == 'e' || e == 'E' then
      let (sign, rest) :=
        match rest with
        | '-' :: more => (['-'], more)
        | '+' :: more => (['+'], more)
        | _ => ([], rest)
      let (ds, rest) := spanDigits rest
      if ds.isEmpty then ([], cs) else ('e' :: sign ++ ds, rest)
    else ([], cs)
  | [] => ([], cs)

/-- The fraction that starts some text, if one does: its text and what follows. -/
def spanFraction (cs : List Char) : List Char × List Char :=
  match cs with
  | '.' :: rest =>
    let (ds, rest) := spanDigits rest
    if ds.isEmpty then ([], cs) else ('.' :: ds, rest)
  | _ => ([], cs)

def readNumber (cs : List Char) : Except Problem (Value × List Char) :=
  let (negative, body) :=
    match cs with
    | '-' :: rest => (true, rest)
    | _ => (false, cs)
  let (whole, rest) :=
    match body with
    | '0' :: rest => (['0'], rest)
    | _ => spanDigits body
  if whole.isEmpty then .error (.malformed "Expecting value" cs.length)
  else
    let (fraction, rest) := spanFraction rest
    let (exponent, rest) := spanExponent rest
    if fraction.isEmpty && exponent.isEmpty then
      if greatestDigitCount < whole.length then .error (.tooManyDigits whole.length)
      else
        let n : Int := ofDigits whole
        .ok (.int (if negative then -n else n), rest)
    else
      match Binary.readUnsigned? negative (whole ++ fraction ++ exponent) with
      | some x => .ok (.float 0 x, rest)
      | none => .error (.malformed "Expecting value" cs.length)

def words : List (List Char × Value) :=
  [("null".toList, .none), ("true".toList, .bool true), ("false".toList, .bool false),
    ("NaN".toList, .float 0 .nan), ("Infinity".toList, .float 0 (.infinite false)),
    ("-Infinity".toList, .float 0 (.infinite true))]

def readPlain (cs : List Char) : Except Problem (Value × List Char) :=
  match words.find? fun w => w.1.isPrefixOf cs with
  | some (word, v) => .ok (v, cs.drop word.length)
  | none => readNumber cs

/-- An entry put under a text key: a repeated key keeps its first place. -/
def putEntry (key : String) (v : Value) (entries : List (String × Value)) : List (String × Value) :=
  if entries.any fun e => e.1 == key then
    entries.map fun e => if e.1 == key then (e.1, v) else e
  else entries ++ [(key, v)]

mutual

/-- A value; `cs` starts with it. -/
def readValue : Nat → List Char → Except Problem (Value × List Char)
  | 0, cs => .error (.malformed "Expecting value" cs.length)
  | fuel + 1, cs =>
    match cs with
    | '"' :: rest => do
      let (s, rest) ← readString cs.length (rest.length + 1) [] rest
      return (.ofString s, rest)
    | '\x7b' :: rest =>
      match skipSpace rest with
      | '\x7d' :: rest => .ok (.dict false [], rest)
      | rest => do
        let (entries, rest) ← readEntries fuel [] rest
        return (.object entries, rest)
    | '[' :: rest =>
      match skipSpace rest with
      | ']' :: rest => .ok (.list [], rest)
      | rest => do
        let (items, rest) ← readItems fuel [] rest
        return (.list items, rest)
    | _ => readPlain cs

/-- The entries of an object from the next key on. -/
def readEntries : Nat → List (String × Value) → List Char →
    Except Problem (List (String × Value) × List Char)
  | 0, _, cs => .error (.malformed "Expecting value" cs.length)
  | fuel + 1, acc, cs =>
    match cs with
    | '"' :: rest => do
      let (key, rest) ← readString cs.length (rest.length + 1) [] rest
      match skipSpace rest with
      | ':' :: rest => do
        let (v, rest) ← readValue fuel (skipSpace rest)
        let acc := putEntry key v acc
        match skipSpace rest with
        | '\x7d' :: rest => return (acc, rest)
        | ',' :: rest => readEntries fuel acc (skipSpace rest)
        | rest => throw (.malformed "Expecting ',' delimiter" rest.length)
      | rest => throw (.malformed "Expecting ':' delimiter" rest.length)
    | _ =>
      .error (.malformed "Expecting property name enclosed in double quotes" cs.length)

/-- The items of an array from the next one on; those in `acc` have been read. -/
def readItems : Nat → List Value → List Char → Except Problem (List Value × List Char)
  | 0, _, cs => .error (.malformed "Expecting value" cs.length)
  | fuel + 1, acc, cs => do
    let (v, rest) ← readValue fuel cs
    match skipSpace rest with
    | ']' :: rest => return ((v :: acc).reverse, rest)
    | ',' :: rest => readItems fuel (v :: acc) (skipSpace rest)
    | rest => throw (.malformed "Expecting ',' delimiter" rest.length)

end

/-- A message with the place it is about: its line, its column and its position. -/
def located (cs : List Char) (message : String) (position : Nat) : String :=
  let before := cs.take position
  let line := before.countP (· == '\n') + 1
  let column := (before.reverse.takeWhile (· != '\n')).length + 1
  message ++ ": line " ++ showNat line ++ " column " ++ showNat column ++ " (char " ++
    showNat position ++ ")"

/-- Callers are prepared for text that does not follow the grammar, and for nothing else. -/
def Problem.toRefusal (cs : List Char) : Problem → Refusal String
  | .malformed message left => .expected (located cs message (cs.length - left))
  | .tooManyDigits count => .foreign (.ofMessage .value (tooManyDigitsText count))

/-- The whole of some text as a value. -/
def readAll (cs : List Char) : Except Problem Value := do
  if cs.head? = some '\uFEFF' then
    throw (.malformed "Unexpected UTF-8 BOM (decode using utf-8-sig)" cs.length)
  let (v, rest) ← readValue (cs.length + 1) (skipSpace cs)
  let rest := skipSpace rest
  if rest.isEmpty then return v else throw (.malformed "Extra data" rest.length)

def read (text : String) : Except (Refusal String) Value :=
  let cs := text.toList
  (readAll cs).mapError (Problem.toRefusal cs)

/-- The value of text or of bytes that are text. -/
def readFrom (source : Value) : Except (Refusal String) Value :=
  match source with
  | .text label => read label.text
  | .bytes _ content =>
    match Text.decodeDetected content with
    | .ok text => read text
    | .error f => .error (.foreign (.ofMessage .decode f.message))
  | v =>
    .error (.foreign (.ofMessage .type
      ("the JSON object must be str, bytes or bytearray, not " ++ v.className)))

end RecordRules.Json
