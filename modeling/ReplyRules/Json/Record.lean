import ReplyRules.Json.Skip

/-!
Reading values of a known kind straight from a text: truth values, lists, and records, of which only the
known members are kept.
-/

namespace ReplyRules.Json

/-- How a value is named that is not of the expected kind. -/
def found : Json → JsonFound
  | .null => .null
  | .bool b => .bool b
  | .number n => .number n
  | .string s => .string s
  | .array _ => .sequence
  | .object _ => .map

/-- Reports a value of another kind than the expected one.  The value is read first if it is neither a
list nor an object. -/
def failExpecting (expected : String) (bytes : Bytes) : Except JsonError α :=
  match skipBlank bytes with
  | [] => failHere .endInValue []
  | b :: rest =>
    if b == openList then failHere (.wrongType .sequence expected) (b :: rest)
    else if b == openObject then failHere (.wrongType .map expected) (b :: rest)
    else match readScalar? b rest with
      | some (.ok (value, rest)) => failHere (.wrongType value.found expected) rest
      | some (.error e) => .error e
      | none => failAt .expectedValue (b :: rest)

/-- A truth value. -/
def readBool (bytes : Bytes) : Except JsonError (Bool × Bytes) :=
  match skipBlank bytes with
  | [] => failHere .endInValue []
  | b :: rest =>
    match literal? b with
    | some (word, .bool value) => (readWord word rest).map fun rest => (value, rest)
    | _ => failExpecting "a boolean" (b :: rest)

/-- A list of any values, which may contain others to the given depth. -/
def readList (depth : Nat) (bytes : Bytes) : Except JsonError (List Json × Bytes) :=
  match skipBlank bytes with
  | [] => failHere .endInValue []
  | b :: rest =>
    if b == openList then
      match depth with
      | 0 => failAt .tooDeep (b :: rest)
      | depth + 1 => readItems (readValue false depth) rest
    else failExpecting "a sequence" (b :: rest)

/-- Keeps the members with a known key, each at most once, and passes over all others. -/
def readKnown (known : List String) : MemberReader (List (String × Json)) := fun members key bytes =>
  if !known.contains key then do
    let rest ← readColon bytes
    let rest ← skipValue rest
    return (members, rest)
  else if members.any (·.1 == key) then failHere (.duplicateField key) bytes
  else do
    let rest ← readColon bytes
    let (value, rest) ← readValue true (maxDepth - 1) rest
    return (setMember key value members, rest)

/-- The record a document holds, with the known members alone.  A record may also be a list of the values
of its members. -/
def recordOfText (known : List String) (text : String) : Except JsonError Json :=
  let bytes := Text.toBytes text
  match skipBlank bytes with
  | [] => failHere .endInValue []
  | b :: rest =>
    if b == openObject then do
      let (members, rest) ← readMembers (readKnown known) [] rest
      readEnd rest
      return .object members
    else do
      let (value, rest) ← readValue true maxDepth (b :: rest)
      readEnd rest
      return value

end ReplyRules.Json
