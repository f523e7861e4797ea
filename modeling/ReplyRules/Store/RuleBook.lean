import ReplyRules.Rule.Record
import ReplyRules.Json.Record
import ReplyRules.Json.Printer

/-!
What is kept between two runs: the rules and the global switch.  In a stored text each record is read by
itself, and one that is no rule is passed over; only a text that is not JSON, or where the list is no
list and the switch no truth value, is refused.
-/

namespace ReplyRules

/-- The rules and the global switch. -/
structure RuleBook where
  rules : List Rule
  enabled : Bool
  deriving DecidableEq, Repr

namespace RuleBook

/-- No rules, and the switch on. -/
def initial : RuleBook := ⟨[], true⟩

instance : Inhabited RuleBook := ⟨initial⟩

/-- The record of a book. -/
def toJson (b : RuleBook) : Json :=
  .object [("rules", .array (b.rules.map Rule.toJson)), ("enabled", .bool b.enabled)]

/-- The text of a book. -/
def toText (b : RuleBook) : String := b.toJson.pretty

/-! ### Reading -/

/-- What has been read of a book. -/
structure Parts where
  records : Option (List Json)
  enabled : Option Bool
  deriving Repr, Inhabited

/-- The book of the parts; a missing list is empty, a missing switch is on. -/
def ofParts (now : Instant) (p : Parts) : RuleBook :=
  ⟨Rule.ofRecords now (p.records.getD []), p.enabled.getD true⟩

/-- How deep lists and objects may lie inside the list of records. -/
def recordsDepth : Nat := Json.maxDepth - 1

/-- Refuses a key that is there twice.  Blank bytes behind it are passed over, and so is a closing
brace. -/
def failRepeated (key : String) (bytes : Bytes) : Except JsonError α :=
  match Json.skipBlank bytes with
  | [] => Json.failHere (.duplicateField key) []
  | b :: rest =>
    Json.failHere (.duplicateField key) (if b == Json.closeObject then rest else b :: rest)

/-- Reads a member of a book; one with another key is passed over. -/
def readPart : Json.MemberReader Parts := fun parts key bytes =>
  if key == "rules" then
    if parts.records.isSome then failRepeated key bytes
    else do
      let rest ← Json.readColon bytes
      let (records, rest) ← Json.readList recordsDepth rest
      return ({ parts with records := some records }, rest)
  else if key == "enabled" then
    if parts.enabled.isSome then failRepeated key bytes
    else do
      let rest ← Json.readColon bytes
      let (enabled, rest) ← Json.readBool rest
      return ({ parts with enabled := some enabled }, rest)
  else do
    let rest ← Json.readColon bytes
    let rest ← Json.skipValue rest
    return (parts, rest)

/-- The end of a list from which no further element is wanted. -/
def readListEnd (bytes : Bytes) : Except JsonError Bytes :=
  match Json.skipBlank bytes with
  | [] => Json.failHere .endInList []
  | b :: rest =>
    if b == Json.closeList then .ok rest
    else if b != Json.commaByte then Json.failAt .trailingCharacters (b :: rest)
    else match Json.skipBlank rest with
      | c :: rest =>
        Json.failAt (if c == Json.closeList then .trailingComma else .trailingCharacters) (c :: rest)
      | [] => Json.failAt .trailingCharacters []

/-- The switch, as the second element of a list, and the end of the list. -/
def readSecond (records : List Json) (bytes : Bytes) : Except JsonError (Parts × Bytes) :=
  match Json.skipBlank bytes with
  | [] => Json.failHere .endInList []
  | b :: rest =>
    if b == Json.closeList then .ok (⟨some records, none⟩, rest)
    else if b != Json.commaByte then Json.failAt .expectedListEnd (b :: rest)
    else match Json.skipBlank rest with
      | [] => Json.failHere .endInValue []
      | c :: rest =>
        if c == Json.closeList then Json.failAt .trailingComma (c :: rest)
        else do
          let (enabled, rest) ← Json.readBool (c :: rest)
          let rest ← readListEnd rest
          return (⟨some records, some enabled⟩, rest)

/-- The parts as a list of at most two elements, from behind its opening bracket. -/
def readSequence (bytes : Bytes) : Except JsonError (Parts × Bytes) :=
  match Json.skipBlank bytes with
  | [] => Json.failHere .endInList []
  | b :: rest =>
    if b == Json.closeList then .ok (⟨none, none⟩, rest)
    else do
      let (records, rest) ← Json.readList recordsDepth (b :: rest)
      readSecond records rest

/-- The parts, as an object or as a list. -/
def readParts (bytes : Bytes) : Except JsonError (Parts × Bytes) :=
  match Json.skipBlank bytes with
  | [] => Json.failHere .endInValue []
  | b :: rest =>
    if b == Json.openObject then Json.readMembers readPart ⟨none, none⟩ rest
    else if b == Json.openList then readSequence rest
    else Json.failExpecting "struct PersistedState" (b :: rest)

/-- The book a text holds. -/
def ofBytes (now : Instant) (text : Bytes) : Except JsonError RuleBook := do
  let (parts, rest) ← readParts text
  Json.readEnd rest
  return ofParts now parts

/-- The book a text holds. -/
def ofText (now : Instant) (text : String) : Except JsonError RuleBook :=
  ofBytes now (Text.toBytes text)

end RuleBook

end ReplyRules
