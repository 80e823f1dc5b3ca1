import RecordRules.Text.Quoted

/-!
Text from bytes.

In UTF-8 a character is a lead byte and up to three more, which the lead byte announces; the range
of the second byte rules out long forms, surrogates and numbers beyond the last character. A fault
says which bytes are at fault: those that began a character, up to the first that does not fit.
-/

namespace RecordRules.Text

/-- Bytes that are no text. -/
structure DecodeFault where
  codec : String
  start : Nat
  bytes : List UInt8
  reason : String
deriving DecidableEq, Repr

def DecodeFault.message (f : DecodeFault) : String :=
  let place :=
    match f.bytes with
    | [b] => "byte 0x" ++ String.ofList (hex 2 b.toNat) ++ " in position " ++ toString f.start
    | bs =>
      "bytes in position " ++ toString f.start ++ "-" ++ toString (f.start + bs.length - 1)
  "'" ++ f.codec ++ "' codec can't decode " ++ place ++ ": " ++ f.reason

/-- What a lead byte announces: how many bytes follow, the range of the first of them and the bits
that the lead byte itself contributes. -/
structure Lead where
  tails : Nat
  least : Nat
  greatest : Nat
  bits : Nat
deriving DecidableEq, Repr

/-- What a byte announces, if it can start a character. -/
def Lead.ofByte? (b : Nat) : Option Lead :=
  if b < 0x80 then some ⟨0, 0x80, 0xbf, b⟩
  else if b < 0xc2 then none
  else if b < 0xe0 then some ⟨1, 0x80, 0xbf, b - 0xc0⟩
  else if b < 0xf0 then
    some ⟨2, if b = 0xe0 then 0xa0 else 0x80, if b = 0xed then 0x9f else 0xbf, b - 0xe0⟩
  else if b < 0xf5 then
    some ⟨3, if b = 0xf0 then 0x90 else 0x80, if b = 0xf4 then 0x8f else 0xbf, b - 0xf0⟩
  else none

/-- How the bytes after a lead byte end. -/
inductive TailEnd where
  | complete (code : Nat)
  | short
  /-- So many of the bytes fit, and the next one does not. -/
  | misfit (fitting : Nat)
deriving DecidableEq, Repr

/-- Reads `n` bytes after a lead byte, of which `seen` have been read. -/
def readTails (least greatest : Nat) : Nat → Nat → Nat → List UInt8 → TailEnd
  | 0, _, code, _ => .complete code
  | _ + 1, _, _, [] => .short
  | n + 1, seen, code, b :: bs =>
    if least ≤ b.toNat ∧ b.toNat ≤ greatest then
      readTails 0x80 0xbf n (seen + 1) (code * 64 + (b.toNat - 0x80)) bs
    else .misfit seen

/-- Reads the characters of the bytes from `at_` on. `skip` counts the bytes that belong to a
character that has been read. -/
def readUtf8 (at_ : Nat) (skip : Nat) : List UInt8 → Except DecodeFault (List Char)
  | [] => .ok []
  | b :: bs =>
    match skip with
    | k + 1 => readUtf8 (at_ + 1) k bs
    | 0 =>
      match Lead.ofByte? b.toNat with
      | none => .error ⟨"utf-8", at_, [b], "invalid start byte"⟩
      | some lead =>
        match readTails lead.least lead.greatest lead.tails 0 lead.bits bs with
        | .complete code => (readUtf8 (at_ + 1) lead.tails bs).map (Char.ofNat code :: ·)
        | .short => .error ⟨"utf-8", at_, b :: bs, "unexpected end of data"⟩
        | .misfit fitting =>
          .error ⟨"utf-8", at_, b :: bs.take fitting, "invalid continuation byte"⟩

def decodeUtf8 (bytes : List UInt8) : Except DecodeFault String :=
  (readUtf8 0 0 bytes).map String.ofList

/-! ### Wider units -/

def bigEndian (bytes : List UInt8) : Nat :=
  bytes.foldl (fun n b => n * 256 + b.toNat) 0

/-- The units of `width` bytes from `at_` on. -/
def readUnits (codec : String) (width : Nat) (bigFirst : Bool) :
    Nat → Nat → List UInt8 → Except DecodeFault (List Nat)
  | 0, _, _ => .ok []
  | fuel + 1, at_, bytes =>
    if bytes.isEmpty then .ok []
    else if bytes.length < width then .error ⟨codec, at_, bytes, "truncated data"⟩
    else
      let unit := bytes.take width
      let n := bigEndian (if bigFirst then unit else unit.reverse)
      (readUnits codec width bigFirst fuel (at_ + width) (bytes.drop width)).map (n :: ·)

/-- Joins the two halves of characters that need two units. -/
def joinHalves : List Nat → List Char
  | high :: low :: rest =>
    if 0xd800 ≤ high ∧ high < 0xdc00 ∧ 0xdc00 ≤ low ∧ low < 0xe000 then
      Char.ofNat (0x10000 + (high - 0xd800) * 0x400 + (low - 0xdc00)) :: joinHalves rest
    else Char.ofNat high :: joinHalves (low :: rest)
  | [unit] => [Char.ofNat unit]
  | [] => []

/-- Text from bytes in units of two or four bytes. -/
def decodeUnits (width : Nat) (bigFirst : Bool) (bytes : List UInt8) :
    Except DecodeFault String :=
  let codec := "utf-" ++ toString (8 * width) ++ (if bigFirst then "-be" else "-le")
  (readUnits codec width bigFirst (bytes.length + 1) 0 bytes).map fun units =>
    String.ofList (if width = 2 then joinHalves units else units.map Char.ofNat)

/-- Text from bytes whose encoding is told by a mark at their start or by the zeros among the first
of them, and is UTF-8 if nothing else is told. -/
def decodeDetected (bytes : List UInt8) : Except DecodeFault String :=
  match bytes with
  | 0x00 :: 0x00 :: 0xfe :: 0xff :: rest => decodeUnits 4 true rest
  | 0xff :: 0xfe :: 0x00 :: 0x00 :: rest => decodeUnits 4 false rest
  | 0xfe :: 0xff :: rest => decodeUnits 2 true rest
  | 0xff :: 0xfe :: rest => decodeUnits 2 false rest
  | 0xef :: 0xbb :: 0xbf :: rest => decodeUtf8 rest
  | a :: b :: c :: d :: _ =>
    if a = 0 then (if b = 0 then decodeUnits 4 true bytes else decodeUnits 2 true bytes)
    else if b = 0 then
      (if c = 0 ∧ d = 0 then decodeUnits 4 false bytes else decodeUnits 2 false bytes)
    else decodeUtf8 bytes
  | [a, b] =>
    if a = 0 then decodeUnits 2 true bytes
    else if b = 0 then decodeUnits 2 false bytes
    else decodeUtf8 bytes
  | _ => decodeUtf8 bytes

end RecordRules.Text
