import ReplyRules.Json.Error

/-!
Reading a JSON text from left to right.  A reader takes the bytes that are left and gives what it read
with the bytes behind it, or an error.  An error says how many bytes were left, either counting the byte
that was looked at as still left (`failHere`) or as passed (`failAt`).
-/

namespace ReplyRules.Json

/-- The fault lies behind what has been read. -/
def failHere (fault : JsonFault) (rest : Bytes) : Except JsonError α :=
  .error ⟨fault, rest.length⟩

/-- The fault is the next byte, or the end if there is none. -/
def failAt (fault : JsonFault) (rest : Bytes) : Except JsonError α :=
  .error ⟨fault, rest.length - 1⟩

/-! ### Bytes with a meaning -/

def quoteByte : UInt8 := 0x22
def commaByte : UInt8 := 0x2C
def minusByte : UInt8 := 0x2D
def pointByte : UInt8 := 0x2E
def colonByte : UInt8 := 0x3A
def openList : UInt8 := 0x5B
def backslashByte : UInt8 := 0x5C
def closeList : UInt8 := 0x5D
def openObject : UInt8 := 0x7B
def closeObject : UInt8 := 0x7D

/-- Blank bytes may stand between the parts of a text. -/
def isBlankByte (b : UInt8) : Bool := b == 0x20 || b == 0x0A || b == 0x09 || b == 0x0D

/-- Passes over blank bytes. -/
def skipBlank (bytes : Bytes) : Bytes := bytes.dropWhile isBlankByte

/-- Whether the byte is a decimal digit. -/
def isDigit (b : UInt8) : Bool := 0x30 ≤ b && b ≤ 0x39

/-- The number a decimal digit stands for. -/
def digitValue (b : UInt8) : Nat := b.toNat - 0x30

/-- The number a hexadecimal digit stands for. -/
def hexValue? (b : UInt8) : Option Nat :=
  if isDigit b then some (b.toNat - 0x30)
  else if 0x61 ≤ b && b ≤ 0x66 then some (b.toNat - 0x61 + 10)
  else if 0x41 ≤ b && b ≤ 0x46 then some (b.toNat - 0x41 + 10)
  else none

/-- Reads the given bytes. -/
def readWord : Bytes → Bytes → Except JsonError Bytes
  | [], bytes => .ok bytes
  | _ :: _, [] => failHere .endInValue []
  | w :: word, b :: bytes => if b == w then readWord word bytes else failHere .expectedIdent bytes

/-- Reads the colon behind a key. -/
def readColon (bytes : Bytes) : Except JsonError Bytes :=
  match skipBlank bytes with
  | [] => failHere .endInObject []
  | b :: rest => if b == colonByte then .ok rest else failAt .expectedColon (b :: rest)

/-- Nothing but blank bytes may stand behind a document. -/
def readEnd (bytes : Bytes) : Except JsonError Unit :=
  match skipBlank bytes with
  | [] => .ok ()
  | rest => failAt .trailingCharacters rest

end ReplyRules.Json
