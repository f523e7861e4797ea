import ReplyRules.Json.Reader

/-!
Passing over a JSON value that nobody asks for.  Brackets have to be balanced and the parts have to be
of the right form, but nothing is made of them: a number may be as great as it likes, halves of
characters may stand alone, and there is no limit to the depth.
-/

namespace ReplyRules.Json

/-! ### Strings and numbers -/

/-- Passes over an escape, from behind the backslash. -/
def skipEscape : Bytes → Except JsonError Bytes
  | [] => failHere .endInString []
  | b :: rest =>
    if b == 0x75 then (readHex4 rest).map (·.2)
    else if (simpleEscape? b).isSome then .ok rest
    else failHere .invalidEscape rest

/-- Passes over a string, from behind the opening quotation mark. -/
def skipStringWith : Nat → Bytes → Except JsonError Bytes
  | 0, _ => failHere .endInString []
  | _ + 1, [] => failHere .endInString []
  | fuel + 1, b :: rest =>
    if b == quoteByte then .ok rest
    else if b == backslashByte then
      match skipEscape rest with
      | .error e => .error e
      | .ok rest => skipStringWith fuel rest
    else if b < 0x20 then failHere .controlCharacter (b :: rest)
    else skipStringWith fuel rest

/-- Passes over a string, from behind the opening quotation mark. -/
def skipString (bytes : Bytes) : Except JsonError Bytes := skipStringWith (bytes.length + 1) bytes

/-- Passes over an exponent, from behind its letter. -/
def skipExponent (bytes : Bytes) : Except JsonError Bytes :=
  match (splitSign bytes).2 with
  | [] => failHere .invalidNumber []
  | b :: rest => if isDigit b then .ok (rest.dropWhile isDigit) else failHere .invalidNumber rest

/-- Passes over an exponent, if there is one. -/
def skipExponentIfAny : Bytes → Except JsonError Bytes
  | [] => .ok []
  | b :: rest => if isExponentMark b then skipExponent rest else .ok (b :: rest)

/-- Passes over what may follow the digits before the point. -/
def skipAfterWhole : Bytes → Except JsonError Bytes
  | [] => .ok []
  | b :: rest =>
    if b == pointByte then
      match rest with
      | d :: _ =>
        if isDigit d then skipExponentIfAny (rest.dropWhile isDigit) else failAt .invalidNumber rest
      | [] => failAt .invalidNumber []
    else skipExponentIfAny (b :: rest)

/-- Passes over a number, from behind its sign. -/
def skipNumber : Bytes → Except JsonError Bytes
  | [] => failHere .invalidNumber []
  | b :: rest =>
    if !isDigit b then failHere .invalidNumber rest
    else if b == 0x30 then
      match rest with
      | d :: _ => if isDigit d then failAt .invalidNumber rest else skipAfterWhole rest
      | [] => .ok []
    else skipAfterWhole (rest.dropWhile isDigit)

/-- Passes over a value that is neither a list nor an object, from behind its first byte; none if the
byte begins no such value. -/
def skipScalar? (b : UInt8) (rest : Bytes) : Option (Except JsonError Bytes) :=
  if b == quoteByte then some (skipString rest)
  else if b == minusByte then some (skipNumber rest)
  else if isDigit b then some (skipNumber (b :: rest))
  else (literal? b).map fun (word, _) => readWord word rest

/-! ### Lists and objects -/

/-- What a bracket encloses. -/
inductive Enclosure where
  | list
  | object
  deriving DecidableEq, Repr

namespace Enclosure

/-- The closing bracket. -/
def close : Enclosure → UInt8
  | list => closeList
  | object => closeObject

/-- The fault of a text that ends inside the brackets. -/
def endFault : Enclosure → JsonFault
  | list => .endInList
  | object => .endInObject

/-- The fault of a value with neither a comma nor the closing bracket behind it. -/
def closeFault : Enclosure → JsonFault
  | list => .expectedListEnd
  | object => .expectedObjectEnd

end Enclosure

/-- Passes over a key and its colon. -/
def skipKey (bytes : Bytes) : Except JsonError Bytes :=
  match skipBlank bytes with
  | [] => failHere .endInObject []
  | b :: rest =>
    if b == quoteByte then do
      let rest ← skipString rest
      readColon rest
    else failAt .keyNotString (b :: rest)

/-- Passes over what stands in front of a value: a key in an object, nothing in a list. -/
def skipToValue : Enclosure → Bytes → Except JsonError Bytes
  | .list, bytes => .ok bytes
  | .object, bytes => skipKey bytes

/-- What may stand at a place inside a value. -/
inductive SkipPlace where
  /-- A value has to begin. -/
  | value
  /-- Behind an opening bracket. -/
  | opened
  /-- Behind a value. -/
  | closed
  deriving DecidableEq, Repr

/-- Passes over the rest of a value that lies inside the given brackets, the innermost first. -/
def skipFrom : Nat → SkipPlace → List Enclosure → Bytes → Except JsonError Bytes
  | 0, _, _, _ => failHere .endInValue []
  | _ + 1, .closed, [], bytes => .ok bytes
  | _ + 1, .opened, [], bytes => .ok bytes
  | fuel + 1, .value, around, bytes =>
    match skipBlank bytes with
    | [] => failHere .endInValue []
    | b :: rest =>
      if b == openList then skipFrom fuel .opened (.list :: around) rest
      else if b == openObject then skipFrom fuel .opened (.object :: around) rest
      else match skipScalar? b rest with
        | none => failAt .expectedValue (b :: rest)
        | some (.error e) => .error e
        | some (.ok rest) => skipFrom fuel .closed around rest
  | fuel + 1, .opened, enclosure :: around, bytes =>
    match skipBlank bytes with
    | [] => failHere enclosure.endFault []
    | b :: rest =>
      if b == enclosure.close then skipFrom fuel .closed around rest
      else match skipToValue enclosure (b :: rest) with
        | .error e => .error e
        | .ok rest => skipFrom fuel .value (enclosure :: around) rest
  | fuel + 1, .closed, enclosure :: around, bytes =>
    match skipBlank bytes with
    | [] => failHere enclosure.endFault []
    | b :: rest =>
      if b == enclosure.close then skipFrom fuel .closed around rest
      else if b != commaByte then failAt enclosure.closeFault (b :: rest)
      else match skipToValue enclosure rest with
        | .error e => .error e
        | .ok rest => skipFrom fuel .value (enclosure :: around) rest

/-- Passes over a value. -/
def skipValue (bytes : Bytes) : Except JsonError Bytes :=
  skipFrom (2 * bytes.length + 2) .value [] bytes

end ReplyRules.Json
