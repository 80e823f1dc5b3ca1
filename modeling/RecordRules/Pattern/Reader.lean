import RecordRules.Number.Digits
import RecordRules.Pattern.Syntax
import RecordRules.Text.Blank
import RecordRules.Text.Character
import RecordRules.Text.Quoted

/-!
Reading patterns.

The text is cut into tokens first: single characters and characters with a backslash before them.
The reader then follows the grammar: a choice of sequences of items, each with at most one
repetition. Every fault names the position where it was found; in a pattern of several lines it
also names line and column. Each token adds at most three levels to the depth of the
reading, so three times their number bounds it.
-/

namespace RecordRules.Pattern

open RecordRules.Number

inductive Fault where
  /-- The pattern does not follow the grammar. -/
  | malformed (message : String)
  /-- A repetition has a count that is too large. -/
  | hugeCount
  /-- A repetition has a count with more digits than are read. -/
  | longCount (digits : Nat)
  /-- The modes contradict each other. -/
  | clashingModes
  /-- The number of a character does not fit into 31 bits. -/
  | hugeCharacter
deriving DecidableEq, Repr

/-- A character, or a character that a backslash precedes. -/
inductive Token where
  | plain (c : Char)
  | escaped (c : Char)
deriving DecidableEq, Repr

def Token.text : Token → List Char
  | .plain c => [c]
  | .escaped c => ['\\', c]

def Token.size : Token → Nat
  | .plain _ => 1
  | .escaped _ => 2

/-- The tokens of a text, and whether a lone backslash follows them. -/
def tokenize : List Char → List Token × Bool
  | [] => ([], false)
  | ['\\'] => ([], true)
  | '\\' :: c :: rest =>
    let (ts, broken) := tokenize rest
    (.escaped c :: ts, broken)
  | c :: rest =>
    let (ts, broken) := tokenize rest
    (.plain c :: ts, broken)

/-- What the reader knows: the source, the tokens that are left and where they start, and the
groups, names and modes met so far. -/
structure Reader where
  source : List Char
  tokens : List Token
  broken : Bool
  position : Nat
  /-- The number of the next group. -/
  next : Nat
  names : List (String × Nat)
  /-- The widths of the groups that are closed. -/
  widths : List (Nat × Nat × Nat)
  /-- Inside a look behind: the first group that it must not refer to. -/
  behind : Option Nat
  /-- The groups that conditions name by number, and where. -/
  conditions : List (Nat × Nat)
  /-- The letters of the modes set for the whole pattern. -/
  modes : List Char

/-- A step of the reader. -/
abbrev Read := StateT Reader (Except Fault)

def faultText (source : List Char) (message : String) (position : Nat) : String :=
  let before := source.take position
  let line := before.count '\n' + 1
  let column := (before.reverse.takeWhile (· ≠ '\n')).length + 1
  message ++ " at position " ++ showNat position ++
    (if source.contains '\n' then
      " (line " ++ showNat line ++ ", column " ++ showNat column ++ ")"
    else "")

def failAt {α : Type} (message : String) (position : Nat) : Read α := do
  throw (.malformed (faultText (← get).source message position))

/-- Fails some characters before the token at hand. -/
def failBack {α : Type} (message : String) (offset : Nat) : Read α := do
  failAt message ((← get).position - offset)

def peek : Read (Option Token) := do
  return (← get).tokens.head?

/-- Checks that the text goes on with a token or ends. -/
def checkBroken : Read Unit := do
  let s ← get
  if s.broken && s.tokens.isEmpty then failAt "bad escape (end of pattern)" (s.source.length - 1)

def take : Read (Option Token) := do
  let s ← get
  match s.tokens with
  | [] => return none
  | t :: rest =>
    set { s with tokens := rest, position := s.position + t.size }
    checkBroken
    return some t

def accept (c : Char) : Read Bool := do
  if (← peek) = some (.plain c) then
    let _ ← take
    return true
  else return false

/-- The leading plain characters among `tokens` that pass a test, at most `n`. -/
def leading (test : Char → Bool) : Nat → List Token → List Char
  | n + 1, .plain c :: rest => if test c then c :: leading test n rest else []
  | _, _ => []

/-- Takes plain characters that pass a test, at most `n`. -/
def takeWhile (n : Nat) (test : Char → Bool) : Read (List Char) := do
  let s ← get
  let cs := leading test n s.tokens
  set { s with tokens := s.tokens.drop cs.length, position := s.position + cs.length }
  if !cs.isEmpty then checkBroken
  return cs

/-- The tokens before the first plain `stop`. -/
def beforeStop (stop : Char) (tokens : List Token) : List Token :=
  tokens.takeWhile (· ≠ .plain stop)

/-- Takes everything up to a closing character, which ends a name. -/
def takeUntil (stop : Char) (what : String) : Read String := do
  let s ← get
  let ts := beforeStop stop s.tokens
  let name := ts.flatMap Token.text
  if ts.length = s.tokens.length then
    set { s with tokens := [], position := s.position + name.length }
    checkBroken
    if name.isEmpty then failBack ("missing " ++ what) 0
    else failBack ("missing " ++ stop.toString ++ ", unterminated name") name.length
  else
    set { s with tokens := s.tokens.drop (ts.length + 1), position := s.position + name.length + 1 }
    checkBroken
    if name.isEmpty then failBack ("missing " ++ what) 1
    return String.ofList name

/-! ### Escapes -/

def hexValue? (c : Char) : Option Nat :=
  if '0' ≤ c ∧ c ≤ '9' then some (c.toNat - 48)
  else if 'a' ≤ c ∧ c ≤ 'f' then some (c.toNat - 87)
  else if 'A' ≤ c ∧ c ≤ 'F' then some (c.toNat - 55)
  else none

/-- The number that some digits denote in a base. -/
def inBase (base : Nat) (cs : List Char) : Nat :=
  cs.foldl (fun n c => base * n + (hexValue? c).getD 0) 0

def isOctal (c : Char) : Bool := '0' ≤ c && c ≤ '7'

def isDecimal (c : Char) : Bool := '0' ≤ c && c ≤ '9'

def controlEscape? : Char → Option Nat
  | 'a' => some 7
  | 'b' => some 8
  | 'f' => some 12
  | 'n' => some 10
  | 'r' => some 13
  | 't' => some 9
  | 'v' => some 11
  | '\\' => some 92
  | _ => none

def classEscape? : Char → Option Item
  | 'd' => some (.named .digit false)
  | 'D' => some (.named .digit true)
  | 's' => some (.named .space false)
  | 'S' => some (.named .space true)
  | 'w' => some (.named .word false)
  | 'W' => some (.named .word true)
  | _ => none

def anchorEscape? : Char → Option Anchor
  | 'A' => some .textStart
  | 'b' => some .boundary
  | 'B' => some .noBoundary
  | 'Z' => some .textEnd
  | _ => none

def failEscape {α : Type} (what : String) (text : List Char) : Read α :=
  failBack (what ++ String.ofList text) text.length

/-- An escape with a fixed number of hexadecimal digits. -/
def readHexEscape (letter : Char) (width : Nat) : Read Nat := do
  let ds ← takeWhile width fun c => (hexValue? c).isSome
  let text := '\\' :: letter :: ds
  if ds.length ≠ width then failEscape "incomplete escape " text
  else
    let c := inBase 16 ds
    if 0x7fffffff < c then throw .hugeCharacter
    if 0x10ffff < c then failEscape "bad escape " text else return c

/-- An escape by the name of a character; no name is known. -/
def readNamedEscape : Read Nat := do
  if !(← accept '\x7b') then failBack "missing \x7b" 0
  else
    let name ← takeUntil '\x7d' "character name"
    failBack ("undefined character name " ++ Text.quoted name) (name.length + 4)

def checkOctal (text : List Char) : Read Nat := do
  let c := inBase 8 (text.drop 1)
  if 0o377 < c then
    failBack ("octal escape value " ++ String.ofList text ++ " outside of range 0-0o377")
      text.length
  else return c

/-- The escapes that mean the same inside and outside of a character set. -/
def readCommonEscape (c : Char) : Read Nat := do
  if c = 'x' then readHexEscape c 2
  else if c = 'u' then readHexEscape c 4
  else if c = 'U' then readHexEscape c 8
  else if c = 'N' then readNamedEscape
  else if c.isAlpha || isDecimal c then failEscape "bad escape " ['\\', c]
  else return c.toNat

def readSetEscape (c : Char) : Read Item := do
  match controlEscape? c, classEscape? c with
  | some d, _ => return .char d
  | none, some i => return i
  | none, none =>
    if isOctal c then
      let ds ← takeWhile 2 isOctal
      return .char (← checkOctal ('\\' :: c :: ds))
    else return .char (← readCommonEscape c)

/-- Checks that a group may be referred to at this place. -/
def checkGroup (g : Nat) (offset : Nat) : Read Unit := do
  let s ← get
  if (s.widths.lookup g).isNone then failBack "cannot refer to an open group" offset

/-- Checks that a look behind does not refer to its own groups. -/
def checkBehind (g : Nat) : Read Unit := do
  match (← get).behind with
  | none => return
  | some first =>
    checkGroup g 0
    if first ≤ g then
      failBack "cannot refer to group defined in the same lookbehind subpattern" 0

def readReference (text : List Char) : Read Node := do
  let g := ofDigits (text.drop 1)
  if g < (← get).next then
    checkGroup g text.length
    checkBehind g
    return .reference g
  else failBack ("invalid group reference " ++ showNat g) (text.length - 1)

/-- An escape that starts with a digit: an octal code or a reference. -/
def readDigitEscape (c : Char) : Read Node := do
  if c = '0' then
    let ds ← takeWhile 2 isOctal
    return .char (inBase 8 ('0' :: ds))
  else
    match ← takeWhile 1 isDecimal with
    | [d] =>
      if isOctal c && isOctal d then
        match ← takeWhile 1 isOctal with
        | [e] => return .char (← checkOctal ['\\', c, d, e])
        | _ => readReference ['\\', c, d]
      else readReference ['\\', c, d]
    | _ => readReference ['\\', c]

/-- An escape outside of character sets, after its backslash. -/
def readEscape (c : Char) : Read Node := do
  match anchorEscape? c, classEscape? c, controlEscape? c with
  | some a, _, _ => return .anchor a
  | none, some i, _ => return .set false [i]
  | none, none, some d => return .char d
  | none, none, none =>
    if isDecimal c then readDigitEscape c else return .char (← readCommonEscape c)

/-! ### Character sets -/

def readMember (t : Token) : Read Item := do
  match t with
  | .escaped c => readSetEscape c
  | .plain c => return .char c.toNat

/-- The members of a set up to its closing bracket; `opened` is where the set starts. -/
def readMembers (opened : Nat) : Nat → List Item → Read (List Item)
  | 0, acc => return acc.reverse
  | fuel + 1, acc => do
    match ← take with
    | none => failAt "unterminated character set" opened
    | some this =>
      if this = .plain ']' ∧ !acc.isEmpty then return acc.reverse
      else
        let low ← readMember this
        if !(← accept '-') then readMembers opened fuel (low :: acc)
        else
          match ← take with
          | none => failAt "unterminated character set" opened
          | some that =>
            if that = .plain ']' then return (.char 0x2d :: low :: acc).reverse
            else
              let high ← readMember that
              let text := this.text ++ '-' :: that.text
              match low, high with
              | .char a, .char b =>
                if b < a then failEscape "bad character range " text
                else readMembers opened fuel (.range a b :: acc)
              | _, _ => failEscape "bad character range " text

def readSet : Read Node := do
  let s ← get
  let opened := s.position - 1
  let negated ← accept '^'
  let items ← readMembers opened (s.tokens.length + 1) []
  return .set negated items

/-! ### Modes -/

/-- The letters of the modes. -/
def modeLetters : List Char := ['i', 'L', 'm', 's', 'x', 'a', 't', 'u']

def flagsOf (letters : List Char) : Flags :=
  ⟨letters.contains 'i', letters.contains 'm', letters.contains 's', letters.contains 'x',
    letters.contains 'a'⟩

/-- Whether a letter picks between ASCII and full Unicode. -/
def isScript (c : Char) : Bool := c = 'a' || c = 'L' || c = 'u'

/-- Fails on a token where a mode letter was expected. -/
def failMode {α : Type} (missing : String) (t : Token) : Read α :=
  let letter := match t with
    | .plain c => Text.isAlphanumeric c.toNat && !Text.isDigit c.toNat
    | .escaped _ => false
  failBack (if letter then "unknown flag" else missing) t.size

/-- The letters of modes to turn on, up to a closing character, which is returned with them. -/
def readModesOn : Nat → List Char → Char → Read (List Char × Char)
  | 0, acc, c => return (acc, c)
  | fuel + 1, acc, c => do
    if c = 'L' then failBack "bad inline flags: cannot use 'L' flag with a str pattern" 0
    let acc := c :: acc
    if isScript c && acc.any (fun d => isScript d && d ≠ c) then
      failBack "bad inline flags: flags 'a', 'u' and 'L' are incompatible" 0
    match ← take with
    | none => failBack "missing -, : or )" 0
    | some (.plain d) =>
      if d = ')' || d = '-' || d = ':' then return (acc, d)
      else if modeLetters.contains d then readModesOn fuel acc d
      else failMode "missing -, : or )" (.plain d)
    | some t => failMode "missing -, : or )" t

/-- The letters of modes to turn off, up to the colon. -/
def readModesOff : Nat → List Char → Char → Read (List Char)
  | 0, acc, _ => return acc
  | fuel + 1, acc, c => do
    if isScript c then
      failBack "bad inline flags: cannot turn off flags 'a', 'u' and 'L'" 0
    let acc := c :: acc
    match ← take with
    | none => failBack "missing :" 0
    | some (.plain d) =>
      if d = ':' then return acc
      else if modeLetters.contains d then readModesOff fuel acc d
      else failMode "missing :" (.plain d)
    | some t => failMode "missing :" t

/-- What a group of modes does: sets them for the whole pattern, or turns some on and off. -/
inductive ModeGroup where
  | whole
  | scoped (on off : List Char)

def readModes (c : Char) : Read ModeGroup := do
  let fuel := (← get).tokens.length + 1
  let (on, closing) ← if c = '-' then pure ([], '-') else readModesOn fuel [] c
  if closing = ')' then
    modify fun s => { s with modes := on ++ s.modes }
    return .whole
  if on.contains 't' then failBack "bad inline flags: cannot turn on global flag" 1
  let off ← if closing = '-' then
      match ← take with
      | none => failBack "missing flag" 0
      | some (.plain d) =>
        if modeLetters.contains d then readModesOff fuel [] d
        else failMode "missing flag" (.plain d)
      | some t => failMode "missing flag" t
    else pure []
  if off.contains 't' then failBack "bad inline flags: cannot turn off global flag" 1
  if on.any off.contains then failBack "bad inline flags: flag turned on and off" 1
  return .scoped on off

/-! ### Repetitions -/

/-- Whether a pattern can be repeated, and if not, why. -/
def repeatFault? : Option Node → Option String
  | none => some "nothing to repeat"
  | some (.anchor _) => some "nothing to repeat"
  | some (.iteration ..) => some "multiple repeat"
  | some _ => none

/-- The bounds written between braces, if the braces hold bounds; otherwise the reader is left
behind the opening brace. -/
def readBounds : Read (Option (List Char × List Char)) := do
  let here ← get
  let n := here.tokens.length
  let low ← takeWhile n isDecimal
  let high ← if ← accept ',' then takeWhile n isDecimal else pure low
  if ← accept '\x7d' then return some (low, high)
  else
    set here
    return none

/-- Whether the modes ask to skip blanks and comments. -/
def isVerbose : Read Bool := do
  return (← get).modes.contains 'x'

def skipLine : Read Unit := do
  let s ← get
  let ts := beforeStop '\n' s.tokens
  let rest := s.tokens.drop (ts.length + 1)
  let size := (s.tokens.take (ts.length + 1)).foldl (fun n t => n + t.size) 0
  set { s with tokens := rest, position := s.position + size }
  checkBroken

def skipComment (start : Nat) : Read Unit := do
  let s ← get
  let ts := beforeStop ')' s.tokens
  if ts.length = s.tokens.length then
    set { s with tokens := [] }
    checkBroken
    failAt "missing ), unterminated comment" start
  else
    let size := ts.foldl (fun n t => n + t.size) 0
    set { s with tokens := s.tokens.drop (ts.length + 1), position := s.position + size + 1 }
    checkBroken

def isIdentifier (name : String) : Bool :=
  match name.toList with
  | [] => false
  | c :: rest =>
    (Text.isWord c.toNat && !Text.isDigit c.toNat) && rest.all fun d => Text.isWord d.toNat

def checkName (name : String) : Read Unit := do
  if !isIdentifier name then
    failBack ("bad character in group name " ++ Text.quoted name) (name.length + 1)

def openGroup (name : Option String) : Read Nat := do
  let s ← get
  let g := s.next
  match name with
  | none => set { s with next := g + 1 }
  | some n =>
    match s.names.lookup n with
    | some old =>
      failBack ("redefinition of group name " ++ Text.quoted n ++ " as group " ++ showNat g ++
        "; was group " ++ showNat old) (n.length + 1)
    | none => set { s with next := g + 1, names := (n, g) :: s.names }
  return g

def closedWidths : Read (Nat → Nat × Nat) := do
  let s ← get
  return fun g => (s.widths.lookup g).getD (0, 0)

def closeGroup (g : Nat) (body : Node) : Read Unit := do
  let w := body.width (← closedWidths)
  modify fun s => { s with widths := (g, w) :: s.widths }

def readCondition : Read Nat := do
  let name ← takeUntil ')' "group name"
  if isIdentifier name then
    match (← get).names.lookup name with
    | some g => return g
    | none => failBack ("unknown group name " ++ Text.quoted name) (name.length + 1)
  else
    let cs := name.toList
    if cs.all isDecimal && cs.length ≤ greatestDigitCount then
      let g := ofDigits cs
      if g = 0 then failBack "bad group number" (name.length + 1)
      else
        modify fun s => if (s.conditions.lookup g).isSome then s
          else { s with conditions := (g, s.position - name.length - 1) :: s.conditions }
        return g
    else failBack ("bad character in group name " ++ Text.quoted name) (name.length + 1)

/-- Fails because a group that started at `start` has not been closed. -/
def expectClose (start : Nat) : Read Unit := do
  if !(← accept ')') then failAt "missing ), unterminated subpattern" start

def sequenceOf : List Node → Node
  | [n] => n
  | ns => .sequence ns

def choiceOf : List Node → Node
  | [n] => n
  | ns => .choice ns

inductive Opening where
  /-- A finished item, or nothing for a comment or modes. -/
  | done (item : Option Node)
  | capture (name : Option String)
  | plainGroup
  | atomicGroup
  | modes (on off : List Char)
  | look (ahead positive : Bool)
  | condition (group : Nat)

/-- What follows `(?P`. -/
def readNamedOpening : Read Opening := do
  if ← accept '<' then
    let name ← takeUntil '>' "group name"
    checkName name
    return .capture (some name)
  if ← accept '=' then
    let name ← takeUntil ')' "group name"
    checkName name
    match (← get).names.lookup name with
    | none => failBack ("unknown group name " ++ Text.quoted name) (name.length + 1)
    | some g =>
      checkGroup g (name.length + 1)
      checkBehind g
      return .done (some (.reference g))
  match ← take with
  | none => failBack "unexpected end of pattern" 0
  | some t => failBack ("unknown extension ?P" ++ String.ofList t.text) (t.size + 2)

/-- What follows `(?<`. -/
def readBehindOpening : Read Opening := do
  match ← take with
  | none => failBack "unexpected end of pattern" 0
  | some (.plain '=') => return .look false true
  | some (.plain '!') => return .look false false
  | some t => failBack ("unknown extension ?<" ++ String.ofList t.text) (t.size + 2)

/-- What an opening bracket that started at `start` opens; modes for the whole pattern may only
stand where `first` holds. -/
def readOpening (start : Nat) (first : Bool) : Read Opening := do
  if !(← accept '?') then return .capture none
  else
    match ← take with
    | none => failBack "unexpected end of pattern" 0
    | some (.escaped c) => failBack ("unknown extension ?" ++ String.ofList ['\\', c]) 3
    | some (.plain c) =>
      match c with
      | 'P' => readNamedOpening
      | ':' => return .plainGroup
      | '#' =>
        skipComment start
        return .done none
      | '=' => return .look true true
      | '!' => return .look true false
      | '<' => readBehindOpening
      | '(' => return .condition (← readCondition)
      | '>' => return .atomicGroup
      | _ =>
        if modeLetters.contains c || c = '-' then
          match ← readModes c with
          | .whole =>
            if first then return .done none
            else failAt "global flags not at the start of the expression" start
          | .scoped on off => return .modes on off
        else failBack ("unknown extension ?" ++ c.toString) 2

def countOf (ds : List Char) : Read Nat := do
  if greatestDigitCount < ds.length then throw (.longCount ds.length)
  let n := ofDigits ds
  if Nat.pow 2 32 - 1 ≤ n then throw .hugeCount
  return n

def boundsOf (low high : List Char) (here : Nat) : Read (Nat × Option Nat) := do
  let least ← if low.isEmpty then pure 0 else countOf low
  if high.isEmpty then return (least, none)
  else
    let most ← countOf high
    if most < least then failAt "min repeat greater than max repeat" here
    return (least, some most)

/-- The sign behind a repetition that says how it chooses its count. -/
def readGreed : Read Greed := do
  if ← accept '?' then return .lazy
  if ← accept '+' then return .possessive
  return .greedy

mutual

def readChoice (nested : Bool) : Nat → Bool → List Node → Read Node
  | 0, _, acc => return choiceOf acc.reverse
  | fuel + 1, verbose, acc => do
    let n ← readSequence nested (!nested && acc.isEmpty) fuel verbose []
    if ← accept '|' then
      let verbose ← if nested then pure verbose else isVerbose
      readChoice nested fuel verbose (n :: acc)
    else return choiceOf (n :: acc).reverse

/-- A sequence of items, of which the last ones stand in `acc`. -/
def readSequence (nested first : Bool) : Nat → Bool → List Node → Read Node
  | 0, _, acc => return sequenceOf acc.reverse
  | fuel + 1, verbose, acc => do
    match ← peek with
    | none => return sequenceOf acc.reverse
    | some (.plain '|') => return sequenceOf acc.reverse
    | some (.plain ')') => return sequenceOf acc.reverse
    | some this =>
      let here := (← get).position
      let _ ← take
      match this with
      | .escaped c =>
        let n ← readEscape c
        readSequence nested first fuel verbose (n :: acc)
      | .plain c =>
        if verbose && Text.isAsciiBlank c.toNat then readSequence nested first fuel verbose acc
        else if verbose && c = '#' then
          skipLine
          readSequence nested first fuel verbose acc
        else
          match c with
          | '[' =>
            let n ← readSet
            readSequence nested first fuel verbose (n :: acc)
          | '.' => readSequence nested first fuel verbose (.any :: acc)
          | '^' => readSequence nested first fuel verbose (.anchor .lineStart :: acc)
          | '$' => readSequence nested first fuel verbose (.anchor .lineEnd :: acc)
          | '(' =>
            match ← readOpening here (first && acc.isEmpty) with
            | .done none =>
              let verbose ← if nested then pure verbose else isVerbose
              readSequence nested first fuel verbose acc
            | .done (some n) => readSequence nested first fuel verbose (n :: acc)
            | o =>
              let n ← readGroup here fuel verbose o
              readSequence nested first fuel verbose (n :: acc)
          | '?' => readRepeat nested first fuel verbose acc here 0 (some 1)
          | '*' => readRepeat nested first fuel verbose acc here 0 none
          | '+' => readRepeat nested first fuel verbose acc here 1 none
          | '\x7b' =>
            if (← peek) = some (.plain '\x7d') then
              readSequence nested first fuel verbose (.char c.toNat :: acc)
            else
              match ← readBounds with
              | none => readSequence nested first fuel verbose (.char c.toNat :: acc)
              | some (low, high) =>
                let (least, most) ← boundsOf low high (here + 1)
                readRepeat nested first fuel verbose acc here least most
          | _ => readSequence nested first fuel verbose (.char c.toNat :: acc)

/-- A repetition of the last item, whose sign started at `here`, and the rest of the sequence. -/
def readRepeat (nested first : Bool) : Nat → Bool → List Node → Nat → Nat → Option Nat → Read Node
  | 0, _, acc, _, _, _ => return sequenceOf acc.reverse
  | fuel + 1, verbose, acc, here, least, most => do
    match repeatFault? acc.head?, acc with
    | some message, _ => failAt message here
    | none, [] => failAt "nothing to repeat" here
    | none, item :: rest =>
      let greed ← readGreed
      readSequence nested first fuel verbose (.iteration greed least most item :: rest)

/-- The contents of a group that started at `start`, up to its closing bracket. -/
def readGroup (start : Nat) : Nat → Bool → Opening → Read Node
  | 0, _, _ => return .sequence []
  | fuel + 1, verbose, o => do
    match o with
    | .done item => return item.getD (.sequence [])
    | .capture name =>
      let g ← openGroup name
      let body ← readChoice true fuel verbose []
      expectClose start
      closeGroup g body
      return .group (some g) .none .none false body
    | .plainGroup =>
      let body ← readChoice true fuel verbose []
      expectClose start
      return .group none .none .none false body
    | .atomicGroup =>
      let body ← readChoice true fuel verbose []
      expectClose start
      return .atomic body
    | .modes on off =>
      let inner := (verbose || on.contains 'x') && !off.contains 'x'
      let body ← readChoice true fuel inner []
      expectClose start
      return .group none (flagsOf on) (flagsOf off) (on.any isScript) body
    | .look ahead positive =>
      let outer := (← get).behind
      if !ahead && outer.isNone then modify fun s => { s with behind := some s.next }
      let body ← readChoice true fuel verbose []
      if !ahead && outer.isNone then modify fun s => { s with behind := none }
      expectClose start
      let (low, high) := body.width (← closedWidths)
      -- A width that varies is kept as such and refused when the whole pattern has been read.
      return .look ahead positive (if low = high then low else unbounded) body
    | .condition g =>
      checkBehind g
      let yes ← readSequence true false fuel verbose []
      let no ← if ← accept '|' then
          let no ← readSequence true false fuel verbose []
          if (← peek) = some (.plain '|') then
            failBack "conditional backref with more than two branches" 0
          pure no
        else pure (.sequence [])
      expectClose start
      return .conditional g yes no

end

mutual

/-- Whether some look behind of a pattern has no fixed width. -/
def Node.looksVaguely : Node → Bool
  | .look ahead _ width body => (!ahead && width == unbounded) || body.looksVaguely
  | .sequence nodes | .choice nodes => Node.anyLooksVaguely nodes
  | .group _ _ _ _ body | .atomic body | .iteration _ _ _ body => body.looksVaguely
  | .conditional _ yes no => yes.looksVaguely || no.looksVaguely
  | _ => false

def Node.anyLooksVaguely : List Node → Bool
  | [] => false
  | n :: rest => n.looksVaguely || Node.anyLooksVaguely rest

end

def readWhole : Read Node := do
  checkBroken
  let s ← get
  let n ← readChoice false (3 * s.tokens.length + 6) (← isVerbose) []
  let s ← get
  if s.modes.contains 'a' && s.modes.contains 'u' then throw .clashingModes
  if !s.tokens.isEmpty then failBack "unbalanced parenthesis" 0
  match s.conditions.reverse.find? fun c => s.next ≤ c.1 with
  | some (g, position) => failAt ("invalid group reference " ++ showNat g) position
  | none => pure ()
  if n.looksVaguely then throw (.malformed "look-behind requires fixed-width pattern")
  return n

/-- Reads a pattern whose modes are given by letters. -/
def Compiled.read (source : String) (letters : List Char) : Except Fault Compiled :=
  let cs := source.toList
  let (tokens, broken) := tokenize cs
  let start : Reader :=
    { source := cs, tokens := tokens, broken := broken, position := 0, next := 1, names := [],
      widths := [], behind := none, conditions := [], modes := letters }
  match readWhole.run start with
  | .ok (n, s) => .ok ⟨source, flagsOf s.modes, s.next - 1, n⟩
  | .error e => .error e

end RecordRules.Pattern
