import ReplyRules.Rule.Basic
import ReplyRules.Json.Fields

/-!
Rules as JSON records: how a rule is written, and what is read as a rule.  Any field may be missing.
-/

namespace ReplyRules

open Json (field? optional? listOf?)

namespace ResponseType

/-- The type as it is stored. -/
def toJson (t : ResponseType) : Json := .string t.name

/-- Any text is the name of a type. -/
def ofJson? (v : Json) : Option ResponseType := v.text?.map ofName

end ResponseType

namespace ResourceKind

/-- The kind as it is stored. -/
def toJson (k : ResourceKind) : Json := .string k.name

/-- The kind with the stored name. -/
def ofJson? (v : Json) : Option ResourceKind := v.name?.bind ofName?

end ResourceKind

namespace MatchType

/-- The way to match as it is stored. -/
def toJson (m : MatchType) : Json := .string m.name

/-- The way to match with the stored name. -/
def ofJson? (v : Json) : Option MatchType := v.name?.bind ofName?

end MatchType

namespace PatternTag

/-- The language as it is stored. -/
def toJson (t : PatternTag) : Json := .string t.name

/-- The language with the stored name. -/
def ofJson? (v : Json) : Option PatternTag := v.name?.bind ofName?

end PatternTag

namespace Instant

/-- The instant as it is stored. -/
def toJson (t : Instant) : Json := Json.ofInt t.millis

/-- The instant at which the stored millisecond begins. -/
def ofJson? (v : Json) : Option Instant := v.int?.bind ofMillis?

end Instant

namespace Rule

/-- The fields of a record, in order. -/
def fields : List String :=
  ["urlPattern", "originalPattern", "matchType", "patternKind", "responseType", "responseContent",
    "resourceTypes", "priority", "enabled", "note", "createdAt", "updatedAt"]

/-- The record of a rule.  The kind of the pattern is left out where it is not known. -/
def toJson (r : Rule) : Json :=
  .object <|
    [("urlPattern", .string r.urlPattern),
      ("originalPattern", .string r.originalPattern),
      ("matchType", r.tag.toJson)] ++
    (match r.patternKind with
      | some kind => [("patternKind", kind.toJson)]
      | none => []) ++
    [("responseType", r.responseType.toJson),
      ("responseContent", .string r.responseContent),
      ("resourceTypes", match r.resourceTypes with
        | some kinds => .array (kinds.map ResourceKind.toJson)
        | none => .null),
      ("priority", Json.ofNat r.priority.toNat),
      ("enabled", .bool r.enabled),
      ("note", .string r.note),
      ("createdAt", r.createdAt.toJson),
      ("updatedAt", r.updatedAt.toJson)]

/-- The rule of a record.  Missing times are the present one. -/
def ofJson? (now : Instant) (v : Json) : Option Rule := do
  let record ← v.record? fields
  return {
    urlPattern := ← field? "urlPattern" Json.text? (some "") record
    originalPattern := ← field? "originalPattern" Json.text? (some "") record
    tag := ← field? "matchType" PatternTag.ofJson? (some .urlFilter) record
    patternKind := ← field? "patternKind" (optional? MatchType.ofJson?) (some none) record
    responseType := ← field? "responseType" ResponseType.ofJson? (some .html) record
    responseContent := ← field? "responseContent" Json.text? (some "") record
    resourceTypes :=
      ← field? "resourceTypes" (optional? (listOf? ResourceKind.ofJson?)) (some none) record
    priority := ← field? "priority" Json.uint32? (some 1) record
    enabled := ← field? "enabled" Json.bool? (some false) record
    note := ← field? "note" Json.text? (some "") record
    createdAt := ← field? "createdAt" Instant.ofJson? (some now) record
    updatedAt := ← field? "updatedAt" Instant.ofJson? (some now) record }

/-- The rules among some records; the others are dropped. -/
def ofRecords (now : Instant) (records : List Json) : List Rule := records.filterMap (ofJson? now)

end Rule

end ReplyRules
