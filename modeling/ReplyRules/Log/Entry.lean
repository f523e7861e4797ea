import ReplyRules.Rule.Record
import ReplyRules.Json.Record

/-!
Entries of the event log, as they are shown and as JSON records.
-/

namespace ReplyRules

open Json (field? optional?)

/-- What an entry tells of. -/
inductive LogAction where
  /-- A rule has been registered. -/
  | registered
  /-- A request has been answered by a rule. -/
  | intercepted
  /-- A rule could not be registered. -/
  | error
  deriving DecidableEq, Repr, Inhabited

namespace LogAction

/-- Every action. -/
def all : List LogAction := [registered, intercepted, error]

/-- The name of an action in records. -/
def tag : LogAction → String
  | registered => "RULE_REGISTERED"
  | intercepted => "REQUEST_INTERCEPTED"
  | error => "RULE_ERROR"

/-- The action with the given name. -/
def ofTag? (s : String) : Option LogAction := all.find? (·.tag == s)

/-- The word an action is shown with. -/
def word : LogAction → String
  | registered => "registered"
  | intercepted => "intercepted"
  | error => "error"

end LogAction

/-- An entry of the log. -/
structure LogEntry where
  action : LogAction
  /-- The pattern of the rule, or the URL of the request. -/
  target : String
  ruleId : Option UInt32
  detail : Option String
  timestamp : Instant
  deriving DecidableEq, Repr, Inhabited

namespace LogEntry

/-- A rule has been registered. -/
def registered (id : UInt32) (pattern detail : String) (now : Instant) : LogEntry :=
  ⟨.registered, pattern, some id, some detail, now⟩

/-- A request has been answered by a rule. -/
def intercepted (id : UInt32) (url detail : String) (now : Instant) : LogEntry :=
  ⟨.intercepted, url, some id, some detail, now⟩

/-- A rule could not be registered. -/
def error (pattern detail : String) (now : Instant) : LogEntry :=
  ⟨.error, pattern, none, some detail, now⟩

/-- How an entry is shown. -/
def display (e : LogEntry) : String :=
  "[" ++ e.timestamp.toText ++ "] " ++ e.action.word ++ " " ++ e.target ++
    (match e.ruleId with
      | some id => " (rule " ++ toString id.toNat ++ ")"
      | none => "") ++
    (match e.detail with
      | some detail => ": " ++ detail
      | none => "")

/-- The fields of a record, in order. -/
def fields : List String := ["action", "target", "ruleId", "detail", "timestamp"]

/-- The record of an entry, without the fields that have no value. -/
def toJson (e : LogEntry) : Json :=
  .object <|
    [("action", .string e.action.tag), ("target", .string e.target)] ++
    (match e.ruleId with
      | some id => [("ruleId", Json.ofNat id.toNat)]
      | none => []) ++
    (match e.detail with
      | some detail => [("detail", .string detail)]
      | none => []) ++
    [("timestamp", e.timestamp.toJson)]

/-- The entry of a record.  Only the rule and the detail may be missing. -/
def ofJson? (v : Json) : Option LogEntry := do
  let record ← v.record? fields
  return {
    action := ← field? "action" (fun v => v.name?.bind LogAction.ofTag?) none record
    target := ← field? "target" Json.text? none record
    ruleId := ← field? "ruleId" (optional? Json.uint32?) (some none) record
    detail := ← field? "detail" (optional? Json.text?) (some none) record
    timestamp := ← field? "timestamp" Instant.ofJson? none record }

/-- The entry a text holds, if it holds one. -/
def ofText? (text : String) : Option LogEntry :=
  match Json.recordOfText fields text with
  | .ok v => ofJson? v
  | .error _ => none

end LogEntry

end ReplyRules
