/-!
How a pattern is meant to match, and the two languages patterns are compiled from.
-/

namespace ReplyRules

/-- How a pattern that is entered is meant to match a URL. -/
inductive MatchType where
  | exact
  | beginning
  | ending
  | contains
  | wildcard
  | regex
  deriving DecidableEq, Repr, Inhabited

/-- The language of a stored pattern. -/
inductive PatternTag where
  /-- A regular expression. -/
  | regex
  /-- A text in which stars stand for any characters. -/
  | urlFilter
  deriving DecidableEq, Repr, Inhabited

namespace MatchType

/-- Every way to match. -/
def all : List MatchType := [exact, beginning, ending, contains, wildcard, regex]

/-- The name of a way to match. -/
def name : MatchType → String
  | exact => "exact"
  | beginning => "prefix"
  | ending => "suffix"
  | contains => "contains"
  | wildcard => "wildcard"
  | regex => "regex"

/-- The way to match with the given name. -/
def ofName? (s : String) : Option MatchType := all.find? (·.name == s)

/-- The language a pattern is stored in. -/
def tag : MatchType → PatternTag
  | regex => .regex
  | _ => .urlFilter

/-- The pattern as it is stored: with a star where anything may stand. -/
def transport (pattern : String) : MatchType → String
  | exact => pattern
  | wildcard => pattern
  | regex => pattern
  | beginning => pattern ++ "*"
  | ending => "*" ++ pattern
  | contains => "*" ++ pattern ++ "*"

theorem ofName?_name (m : MatchType) : ofName? m.name = some m := by
  cases m <;> decide

end MatchType

namespace PatternTag

/-- The name of a language. -/
def name : PatternTag → String
  | regex => "regex"
  | urlFilter => "urlFilter"

/-- The language with the given name.  Names of ways to match stand for the language they are stored
in. -/
def ofName? (s : String) : Option PatternTag :=
  if s == "urlFilter" then some urlFilter else (MatchType.ofName? s).map MatchType.tag

theorem ofName?_name (t : PatternTag) : ofName? t.name = some t := by
  cases t <;> decide

end PatternTag

end ReplyRules
