import ReplyRules.Rule.MatchType
import ReplyRules.Reply.ResponseType
import ReplyRules.Time.Instant
import ReplyRules.Traffic.Resource
import ReplyRules.Text.Lowercase

/-!
Rules, as they are stored and as they are entered, and the search for them.
-/

namespace ReplyRules

/-- A stored rule: requests that match the pattern get the response. -/
structure Rule where
  /-- The pattern that is compiled. -/
  urlPattern : String
  /-- The pattern that was entered. -/
  originalPattern : String
  tag : PatternTag
  /-- How the entered pattern is meant to match, if that is known. -/
  patternKind : Option MatchType
  responseType : ResponseType
  responseContent : String
  /-- The kinds of requests the rule is for. -/
  resourceTypes : Option (List ResourceKind)
  priority : UInt32
  enabled : Bool
  note : String
  createdAt : Instant
  updatedAt : Instant
  deriving DecidableEq, Repr, Inhabited

/-- A rule as it is entered. -/
structure RuleInput where
  pattern : String
  content : String
  matchType : MatchType
  responseType : ResponseType
  resourceTypes : List ResourceKind
  priority : UInt32
  note : String
  deriving DecidableEq, Repr, Inhabited

namespace RuleInput

/-- The input for a page that is sent where the URL contains the pattern. -/
def plain (pattern content : String) : RuleInput :=
  ⟨pattern, content, .contains, .html, [], 1, ""⟩

end RuleInput

namespace Rule

/-- The priority that counts: at least 1. -/
def effectivePriority (r : Rule) : UInt32 := max r.priority 1

/-- Whether the rule has both a pattern and a content. -/
def isComplete (r : Rule) : Bool := r.urlPattern != "" && r.responseContent != ""

/-- The pattern to show in a form: the entered one, or the stored one if that is not known. -/
def shownPattern (r : Rule) : String :=
  if r.originalPattern = "" then r.urlPattern else r.originalPattern

/-- How the shown pattern is meant to match: as recorded for the entered pattern, else anywhere. -/
def shownMatchType (r : Rule) : MatchType :=
  match r.patternKind with
  | some kind => if r.originalPattern = "" then fallback else kind
  | none => fallback
where
  /-- What a pattern of unknown kind is taken for. -/
  fallback : MatchType :=
    match r.tag with
    | .regex => .regex
    | .urlFilter => .contains

/-- The form for changing the rule. -/
def toInput (r : Rule) : RuleInput where
  pattern := r.shownPattern
  content := r.responseContent
  matchType := r.shownMatchType
  responseType := r.responseType
  resourceTypes := r.resourceTypes.getD []
  priority := r.effectivePriority
  note := r.note

/-- The texts in which a rule is searched for. -/
def searchedTexts (r : Rule) : List String :=
  [r.urlPattern, r.originalPattern, r.note, r.responseType.name]

/-- Whether one of the texts contains the query, in small letters or capitals. -/
def matchesQuery (r : Rule) (query : String) : Bool :=
  r.searchedTexts.any fun s => Text.contains (Text.lower s) (Text.lower query)

end Rule

end ReplyRules
