import ReplyRules.Text.Utf8
import ReplyRules.Text.Debug
import ReplyRules.Json.Value

/-!
What can be wrong with a JSON text, and how it is reported: the reason with the line and the column
reached.  Columns count bytes.
-/

namespace ReplyRules

/-- The kinds of values, as they are named where another kind was expected. -/
inductive JsonFound where
  | null
  | bool (b : Bool)
  | number (n : JsonNumber)
  | string (s : String)
  | sequence
  | map
  deriving DecidableEq, Repr

/-- The faults of JSON texts. -/
inductive JsonFault where
  | endInValue
  | endInList
  | endInObject
  | endInString
  | expectedValue
  | expectedIdent
  | expectedColon
  | expectedListEnd
  | expectedObjectEnd
  | trailingComma
  | trailingCharacters
  | keyNotString
  | invalidNumber
  | numberOutOfRange
  | invalidEscape
  | endOfHexEscape
  | loneSurrogate
  | invalidCodePoint
  | controlCharacter
  | tooDeep
  | wrongType (found : JsonFound) (expected : String)
  | duplicateField (name : String)
  deriving DecidableEq, Repr

/-- The text of a number. -/
def JsonNumber.toText : JsonNumber → String
  | natural n => toString n
  | negative n => "-" ++ toString n
  | float x => x.toText

/-- How a value is named. -/
def JsonFound.describe : JsonFound → String
  | null => "null"
  | bool b => "boolean `" ++ (if b then "true" else "false") ++ "`"
  | number (.float x) => "floating point `" ++ x.toText ++ "`"
  | number n => "integer `" ++ n.toText ++ "`"
  | string s => "string " ++ Text.debug s
  | sequence => "sequence"
  | map => "map"

/-- The reason given for a fault. -/
def JsonFault.message : JsonFault → String
  | endInValue => "EOF while parsing a value"
  | endInList => "EOF while parsing a list"
  | endInObject => "EOF while parsing an object"
  | endInString => "EOF while parsing a string"
  | expectedValue => "expected value"
  | expectedIdent => "expected ident"
  | expectedColon => "expected `:`"
  | expectedListEnd => "expected `,` or `]`"
  | expectedObjectEnd => "expected `,` or `\x7d`"
  | trailingComma => "trailing comma"
  | trailingCharacters => "trailing characters"
  | keyNotString => "key must be a string"
  | invalidNumber => "invalid number"
  | numberOutOfRange => "number out of range"
  | invalidEscape => "invalid escape"
  | endOfHexEscape => "unexpected end of hex escape"
  | loneSurrogate => "lone leading surrogate in hex escape"
  | invalidCodePoint => "invalid unicode code point"
  | controlCharacter => "control character (\\u0000-\\u001F) found while parsing a string"
  | tooDeep => "recursion limit exceeded"
  | wrongType found expected => "invalid type: " ++ found.describe ++ ", expected " ++ expected
  | duplicateField name => "duplicate field `" ++ name ++ "`"

/-- A fault, with the number of bytes that were left where it was found. -/
structure JsonError where
  fault : JsonFault
  left : Nat
  deriving DecidableEq, Repr

/-- The line and the column behind the given bytes. -/
def lineAndColumn (line column : Nat) : Bytes → Nat × Nat
  | [] => (line, column)
  | b :: bytes =>
    if b == 0x0A then lineAndColumn (line + 1) 0 bytes else lineAndColumn line (column + 1) bytes

/-- The report of an error in the given text. -/
def JsonError.message (text : Bytes) (e : JsonError) : String :=
  let (line, column) := lineAndColumn 1 0 (text.take (text.length - e.left))
  e.fault.message ++ " at line " ++ toString line ++ " column " ++ toString column

end ReplyRules
