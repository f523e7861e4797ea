import ReplyRules.Rule.Record
import ReplyRules.Json.Reader
import ReplyRules.Json.Printer

/-!
Lists of rules as documents.  A document is a list of records; from a document only those records are
taken that have a pattern and a content and are rules.
-/

namespace ReplyRules

/-- Why a document is refused. -/
inductive ImportError where
  /-- The text is not JSON. -/
  | notJson (text : String) (e : JsonError)
  /-- The value is not a list. -/
  | notArray
  deriving DecidableEq, Repr

/-- The text of a refusal. -/
def ImportError.message : ImportError → String
  | notJson text e => "invalid rule document: " ++ e.message (Text.toBytes text)
  | notArray => "rule document must be a JSON array"

namespace Rule

/-- The value of a list of rules. -/
def listToJson (rules : List Rule) : Json := .array (rules.map toJson)

/-- The document for a list of rules. -/
def exportText (rules : List Rule) : String := (listToJson rules).pretty

/-- Whether the value has a text under the key, and not the empty one. -/
def hasText (key : String) (v : Json) : Bool :=
  match (v.member? key).bind Json.text? with
  | some s => s != ""
  | none => false

/-- Whether a record has both a pattern and a content. -/
def isImportable (v : Json) : Bool := hasText "urlPattern" v && hasText "responseContent" v

/-- The rules of a document. -/
def ofDocument (now : Instant) (text : String) : Except ImportError (List Rule) :=
  match Json.ofText text with
  | .error e => .error (.notJson text e)
  | .ok (.array records) => .ok (ofRecords now (records.filter isImportable))
  | .ok _ => .error .notArray

/-- The rules that have both a pattern and a content. -/
def complete (rules : List Rule) : List Rule := rules.filter isComplete

end Rule

end ReplyRules
