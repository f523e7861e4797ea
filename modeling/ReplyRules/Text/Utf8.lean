/-!
Texts as bytes.
-/

namespace ReplyRules

/-- A sequence of bytes. -/
abbrev Bytes := List UInt8

namespace Text

/-- The bytes of a text in UTF-8. -/
def toBytes (s : String) : Bytes := s.toUTF8.data.toList

/-- The text with the given bytes in UTF-8, if they are that of a text. -/
def ofBytes? (bytes : Bytes) : Option String := String.fromUTF8? ⟨⟨bytes⟩⟩

/-- Whether the byte continues a character. -/
def isContinuation (b : UInt8) : Bool := 0x80 ≤ b && b ≤ 0xBF

/-- The bytes behind the first character; `none` where no character begins. -/
def dropCharacter? : Bytes → Option Bytes
  | [] => none
  | a :: rest =>
    if a < 0x80 then some rest
    else match rest with
      | [] => none
      | b :: rest =>
        if 0xC2 ≤ a && a ≤ 0xDF then
          if isContinuation b then some rest else none
        else match rest with
          | [] => none
          | c :: rest =>
            if 0xE0 ≤ a && a ≤ 0xEF then
              let lo : UInt8 := if a == 0xE0 then 0xA0 else 0x80
              let hi : UInt8 := if a == 0xED then 0x9F else 0xBF
              if lo ≤ b && b ≤ hi && isContinuation c then some rest else none
            else match rest with
              | [] => none
              | d :: rest =>
                let lo : UInt8 := if a == 0xF0 then 0x90 else 0x80
                let hi : UInt8 := if a == 0xF4 then 0x8F else 0xBF
                if 0xF0 ≤ a && a ≤ 0xF4 && lo ≤ b && b ≤ hi && isContinuation c &&
                    isContinuation d then some rest
                else none

/-- What is left of the bytes where they stop being characters; at most `n` characters are passed. -/
def dropCharacters : Nat → Bytes → Bytes
  | 0, bytes => bytes
  | n + 1, bytes =>
    match dropCharacter? bytes with
    | some rest => dropCharacters n rest
    | none => bytes

/-- The number of bytes before the first one that belongs to no character. -/
def validLength (bytes : Bytes) : Nat :=
  bytes.length - (dropCharacters bytes.length bytes).length

end Text

end ReplyRules
