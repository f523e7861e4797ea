import ReplyRules.Rule.MatchType
import ReplyRules.Regex.Basic

/-!
Matchers: stored patterns, compiled.  A filter is turned into a regular expression that covers the whole
URL; a star becomes any characters, and every other character stands for itself.
-/

namespace ReplyRules

/-- A compiled pattern. -/
structure Matcher where
  pattern : String
  tag : PatternTag
  regex : Regex
  deriving DecidableEq, Repr, Inhabited

namespace Matcher

/-- The expression for the characters of a filter. -/
def filterBody : List Char → List Char
  | [] => []
  | c :: cs => (if c == '*' then ['.', '*'] else Regex.quoteChars [c]) ++ filterBody cs

/-- The regular expression for a filter. -/
def filterRegex (pattern : String) : String :=
  String.ofList ("(?s)^".toList ++ filterBody pattern.toList ++ ['$'])

/-- The regular expression that is compiled for a pattern. -/
def regexText (pattern : String) : PatternTag → String
  | .regex => pattern
  | .urlFilter => filterRegex pattern

/-- Compiles a pattern. -/
def compile (pattern : String) (tag : PatternTag) : Except Regex.CompileError Matcher :=
  (Regex.compile (regexText pattern tag)).map fun regex => ⟨pattern, tag, regex⟩

/-- Whether the URL is matched. -/
def accepts (m : Matcher) (url : String) : Bool := m.regex.isMatch url

end Matcher

end ReplyRules
