import ReplyRules.Json.Scan

/-!
Reading the strings of JSON texts, from behind the opening quotation mark.  A string is a sequence of
pieces: a byte that stands for itself, or an escape, which stands for a character.
-/

namespace ReplyRules.Json

/-- The bytes of one character. -/
def charBytes (c : Char) : Bytes := Text.toBytes (String.singleton c)

/-- The character a one-letter escape stands for. -/
def simpleEscape? (b : UInt8) : Option Char :=
  match Char.ofNat b.toNat with
  | '"' => some '"'
  | '\\' => some '\\'
  | '/' => some '/'
  | 'b' => some '\x08'
  | 'f' => some '\x0C'
  | 'n' => some '\n'
  | 'r' => some '\r'
  | 't' => some '\t'
  | _ => none

/-- Four hexadecimal digits. -/
def readHex4 : Bytes → Except JsonError (Nat × Bytes)
  | a :: b :: c :: d :: rest =>
    match hexValue? a, hexValue? b, hexValue? c, hexValue? d with
    | some a, some b, some c, some d => .ok (((a * 16 + b) * 16 + c) * 16 + d, rest)
    | _, _, _, _ => failHere .invalidEscape rest
  | _ => failHere .endInString []

/-- Reads the byte that has to follow the first half of a pair. -/
def readPairByte (expected : UInt8) : Bytes → Except JsonError Bytes
  | [] => failHere .endInString []
  | b :: rest => if b == expected then .ok rest else failHere .endOfHexEscape rest

/-- A character given by its number, in one half or in two. -/
def readNumbered (bytes : Bytes) : Except JsonError (Char × Bytes) := do
  let (first, rest) ← readHex4 bytes
  if 0xDC00 ≤ first && first ≤ 0xDFFF then failHere .loneSurrogate rest
  else if 0xD800 ≤ first && first ≤ 0xDBFF then
    let rest ← readPairByte backslashByte rest
    let rest ← readPairByte 0x75 rest
    let (second, rest) ← readHex4 rest
    if 0xDC00 ≤ second && second ≤ 0xDFFF then
      .ok (Char.ofNat (0x10000 + (first - 0xD800) * 0x400 + (second - 0xDC00)), rest)
    else failHere .loneSurrogate rest
  else .ok (Char.ofNat first, rest)

/-- The character an escape stands for, from behind the backslash. -/
def readEscaped : Bytes → Except JsonError (Char × Bytes)
  | [] => failHere .endInString []
  | b :: rest =>
    if b == 0x75 then readNumbered rest
    else match simpleEscape? b with
      | some c => .ok (c, rest)
      | none => failHere .invalidEscape rest

/-- One piece of a string; none at the closing quotation mark. -/
def readPiece : Bytes → Except JsonError (Option Bytes × Bytes)
  | [] => failHere .endInString []
  | b :: rest =>
    if b == quoteByte then .ok (none, rest)
    else if b == backslashByte then do
      let (c, rest) ← readEscaped rest
      return (some (charBytes c), rest)
    else if b < 0x20 then failHere .controlCharacter rest
    else .ok (some [b], rest)

/-- The pieces up to the closing quotation mark, behind the ones already read. -/
def readPieces : Nat → List Bytes → Bytes → Except JsonError (Bytes × Bytes)
  | 0, _, _ => failHere .endInString []
  | fuel + 1, pieces, bytes =>
    match readPiece bytes with
    | .error e => .error e
    | .ok (none, rest) => .ok (pieces.reverse.flatten, rest)
    | .ok (some piece, rest) => readPieces fuel (piece :: pieces) rest

/-- A string.  Its bytes have to be characters; if they are not, the error names the first byte that
belongs to none. -/
def readString (bytes : Bytes) : Except JsonError (String × Bytes) := do
  let (content, rest) ← readPieces (bytes.length + 1) [] bytes
  match Text.ofBytes? content with
  | some s => .ok (s, rest)
  | none => .error ⟨.invalidCodePoint, bytes.length - (Text.validLength bytes + 1)⟩

end ReplyRules.Json
