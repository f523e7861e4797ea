import ReplyRules.Unicode.BinaryProperty

/-!
Texts in quotation marks, with what cannot be shown as it is written as an escape.
-/

namespace ReplyRules.Text

open Unicode (CodeSet categories graphemeExtendSet)

/-- The characters that nothing is seen of: those that are not assigned, controls, formats, separators
other than the blank, and private ones. -/
def unprintableSet : CodeSet := categories ["cc", "cf", "cn", "co", "zl", "zp", "zs"]

/-- The hexadecimal digits of a number, in lower case. -/
def hexText (n : Nat) : String := String.ofList (Nat.toDigits 16 n)

/-- A character as it stands between quotation marks. -/
def debugChar (c : Char) : String :=
  match c with
  | '\x00' => "\\0"
  | '\t' => "\\t"
  | '\n' => "\\n"
  | '\r' => "\\r"
  | '"' => "\\\""
  | '\\' => "\\\\"
  | c =>
    if c.toNat < 0x7F && ' ' ≤ c then String.ofList [c]
    else if unprintableSet.hasChar c || graphemeExtendSet.hasChar c then
      "\\u\x7b" ++ hexText c.toNat ++ "\x7d"
    else String.ofList [c]

/-- The text between quotation marks. -/
def debug (s : String) : String :=
  "\"" ++ String.join (s.toList.map debugChar) ++ "\""

end ReplyRules.Text
