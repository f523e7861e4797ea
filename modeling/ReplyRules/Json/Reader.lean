import ReplyRules.Json.StringReader
import ReplyRules.Json.NumberReader

/-!
Reading JSON values.  Lists and objects may lie inside each other to a depth of 127; `readValue` recurs
on the depth that is left.  Where an object has a key twice, the last value counts, unless the reader
is asked to refuse that.
-/

namespace ReplyRules.Json

/-- How deep lists and objects may lie inside each other. -/
def maxDepth : Nat := 127

/-! ### Lists -/

/-- Elements behind an element, up to the end of the list.  Elements already read are last first. -/
def readMoreItems (item : Bytes → Except JsonError (α × Bytes)) : Nat → List α → Bytes → Except JsonError (List α × Bytes)
  | 0, _, _ => failHere .endInList []
  | fuel + 1, items, bytes =>
    match skipBlank bytes with
    | [] => failHere .endInList []
    | b :: rest =>
      if b == closeList then .ok (items.reverse, rest)
      else if b != commaByte then failAt .expectedListEnd (b :: rest)
      else match skipBlank rest with
        | [] => failHere .endInValue []
        | c :: rest =>
          if c == closeList then failAt .trailingComma (c :: rest)
          else match item (c :: rest) with
            | .error e => .error e
            | .ok (x, rest) => readMoreItems item fuel (x :: items) rest

/-- The elements of a list, from behind its opening bracket. -/
def readItems (item : Bytes → Except JsonError (α × Bytes)) (bytes : Bytes) : Except JsonError (List α × Bytes) :=
  match skipBlank bytes with
  | [] => failHere .endInList []
  | b :: rest =>
    if b == closeList then .ok ([], rest)
    else match item (b :: rest) with
      | .error e => .error e
      | .ok (x, rest) => readMoreItems item (rest.length + 1) [x] rest

/-! ### Objects -/

/-- A reader of a member, from behind its key; it adds what it reads to what is already known. -/
abbrev MemberReader (σ : Type) := σ → String → Bytes → Except JsonError (σ × Bytes)

/-- A key with its member. -/
def readKeyed (member : MemberReader σ) (known : σ) : Bytes → Except JsonError (σ × Bytes)
  | [] => failHere .endInValue []
  | b :: rest =>
    if b == quoteByte then do
      let (key, rest) ← readString rest
      member known key rest
    else failAt .keyNotString (b :: rest)

/-- Members behind a member, up to the end of the object. -/
def readMoreMembers (member : MemberReader σ) : Nat → σ → Bytes → Except JsonError (σ × Bytes)
  | 0, _, _ => failHere .endInObject []
  | fuel + 1, known, bytes =>
    match skipBlank bytes with
    | [] => failHere .endInObject []
    | b :: rest =>
      if b == closeObject then .ok (known, rest)
      else if b != commaByte then failAt .expectedObjectEnd (b :: rest)
      else match skipBlank rest with
        | [] => failHere .endInValue []
        | c :: rest =>
          if c == closeObject then failAt .trailingComma (c :: rest)
          else match readKeyed member known (c :: rest) with
            | .error e => .error e
            | .ok (known, rest) => readMoreMembers member fuel known rest

/-- The members of an object, from behind its opening brace. -/
def readMembers (member : MemberReader σ) (start : σ) (bytes : Bytes) : Except JsonError (σ × Bytes) :=
  match skipBlank bytes with
  | [] => failHere .endInObject []
  | b :: rest =>
    if b == closeObject then .ok (start, rest)
    else match readKeyed member start (b :: rest) with
      | .error e => .error e
      | .ok (known, rest) => readMoreMembers member (rest.length + 1) known rest

/-! ### Values -/

/-- The first letter of a literal with what follows it and what it stands for. -/
def literal? (b : UInt8) : Option (Bytes × Json) :=
  match Char.ofNat b.toNat with
  | 'n' => some (Text.toBytes "ull", .null)
  | 't' => some (Text.toBytes "rue", .bool true)
  | 'f' => some (Text.toBytes "alse", .bool false)
  | _ => none

/-- A value that is neither a list nor an object, from behind its first byte; none if the byte begins no
such value. -/
def readScalar? (b : UInt8) (rest : Bytes) : Option (Except JsonError (Json × Bytes)) :=
  if b == quoteByte then some do
    let (s, rest) ← readString rest
    return (.string s, rest)
  else if b == minusByte then some do
    let (n, rest) ← readNumber true rest
    return (.number n, rest)
  else if isDigit b then some do
    let (n, rest) ← readNumber false (b :: rest)
    return (.number n, rest)
  else (literal? b).map fun (word, value) => do
    let rest ← readWord word rest
    return (value, rest)

/-- A value.  With `distinct`, an object that repeats a key is refused. -/
def readValue (distinct : Bool) : Nat → Bytes → Except JsonError (Json × Bytes)
  | depth, bytes =>
    match skipBlank bytes with
    | [] => failHere .endInValue []
    | b :: rest =>
      if b == openList then
        match depth with
        | 0 => failAt .tooDeep (b :: rest)
        | depth + 1 => do
          let (items, rest) ← readItems (readValue distinct depth) rest
          return (.array items, rest)
      else if b == openObject then
        match depth with
        | 0 => failAt .tooDeep (b :: rest)
        | depth + 1 => do
          let member : MemberReader (List (String × Json)) := fun members key bytes => do
            if distinct && members.any (·.1 == key) then failHere (.duplicateField key) bytes
            else
              let rest ← readColon bytes
              let (value, rest) ← readValue distinct depth rest
              return (setMember key value members, rest)
          let (members, rest) ← readMembers member [] rest
          return (.object members, rest)
      else match readScalar? b rest with
        | some read => read
        | none => failAt .expectedValue (b :: rest)

/-- The value a document holds. -/
def ofBytes (text : Bytes) : Except JsonError Json := do
  let (value, rest) ← readValue false maxDepth text
  readEnd rest
  return value

/-- The value a document holds. -/
def ofText (text : String) : Except JsonError Json := ofBytes (Text.toBytes text)

end ReplyRules.Json
