import ReplyRules.Json.Error

/-!
Writing JSON values: each element and each member on a line of its own, two blanks further in than the
brackets around it; empty lists and objects are a pair of brackets.
-/

namespace ReplyRules.Json

/-- A hexadecimal digit, in lower case. -/
def hexDigit (n : Nat) : Char := Nat.digitChar (n % 16)

/-- A character as it is written inside a string: quotation marks, backslashes and controls as escapes,
all others as they are. -/
def escapeChar (c : Char) : List Char :=
  match c with
  | '"' => ['\\', '"']
  | '\\' => ['\\', '\\']
  | '\x08' => ['\\', 'b']
  | '\x0C' => ['\\', 'f']
  | '\n' => ['\\', 'n']
  | '\r' => ['\\', 'r']
  | '\t' => ['\\', 't']
  | c => if c < ' ' then ['\\', 'u', '0', '0', hexDigit (c.toNat / 16), hexDigit c.toNat] else [c]

/-- A string between quotation marks. -/
def quoted (s : String) : List Char := '"' :: s.toList.flatMap escapeChar ++ ['"']

/-- The beginning of a line. -/
def newLine (indent : Nat) : List Char := '\n' :: List.replicate (2 * indent) ' '

mutual

/-- A value whose lines begin `indent` steps in. -/
def chars (indent : Nat) : Json → List Char
  | .null => "null".toList
  | .bool true => "true".toList
  | .bool false => "false".toList
  | .number n => n.toText.toList
  | .string s => quoted s
  | .array [] => ['[', ']']
  | .array (item :: items) =>
    '[' :: newLine (indent + 1) ++ chars (indent + 1) item ++ itemChars (indent + 1) items ++
      newLine indent ++ [']']
  | .object [] => ['\x7b', '\x7d']
  | .object ((key, value) :: members) =>
    '\x7b' :: newLine (indent + 1) ++ quoted key ++ [':', ' '] ++ chars (indent + 1) value ++
      memberChars (indent + 1) members ++ newLine indent ++ ['\x7d']

/-- Elements behind the first one. -/
def itemChars (indent : Nat) : List Json → List Char
  | [] => []
  | item :: items => ',' :: newLine indent ++ chars indent item ++ itemChars indent items

/-- Members behind the first one. -/
def memberChars (indent : Nat) : List (String × Json) → List Char
  | [] => []
  | (key, value) :: members =>
    ',' :: newLine indent ++ quoted key ++ [':', ' '] ++ chars indent value ++ memberChars indent members

end

/-- The text of a value. -/
def pretty (value : Json) : String := String.ofList (chars 0 value)

end ReplyRules.Json
