import ReplyRules.Regex.Reader
import ReplyRules.Regex.Nesting
import ReplyRules.Regex.Meaning
import ReplyRules.Regex.Footprint
import ReplyRules.Regex.Search

/-!
Compiled regular expressions: a pattern is read, checked for nesting, given its meaning and measured; what
comes out tells whether a text has a match.
-/

namespace ReplyRules

/-- A compiled regular expression. -/
structure Regex where
  expr : Regex.Expr
  deriving DecidableEq, Repr, Inhabited

namespace Regex

/-- Why a pattern is refused. -/
inductive CompileError where
  /-- The pattern is no regular expression. -/
  | malformed (pattern : String) (e : SyntaxError)
  /-- The program for the pattern is too big. -/
  | tooBig (limit : Nat)
  deriving DecidableEq, Repr

/-- The text of a refusal. -/
def CompileError.message : CompileError → String
  | malformed pattern e => e.report pattern
  | tooBig limit => "Compiled regex exceeds size limit of " ++ toString limit ++ " bytes."

/-- The expression that a pattern stands for. -/
def exprOf (pattern : List Char) : Except SyntaxError Expr := do
  let p ← readPattern pattern
  p.checkNesting 0
  let (e, _) ← p.meaning .initial
  return e

/-- Compiles a pattern. -/
def compile (pattern : String) : Except CompileError Regex :=
  match exprOf pattern.toList with
  | .error e => .error (.malformed pattern e)
  | .ok e => if e.fits then .ok ⟨e⟩ else .error (.tooBig sizeLimit)

/-- Whether some stretch of the text is a match. -/
def isMatch (r : Regex) (text : String) : Bool := r.expr.isIn text.toList

end Regex

end ReplyRules
