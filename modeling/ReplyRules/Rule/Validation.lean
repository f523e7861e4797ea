import ReplyRules.Rule.Basic
import ReplyRules.Regex.Basic
import ReplyRules.Text.Basic

/-!
Making rules of what is entered.  A pattern and a content are required, and a regular expression has to
be one.
-/

namespace ReplyRules

/-- Why an input is refused. -/
inductive ValidationError where
  | emptyPattern
  | emptyContent
  | invalidRegex (pattern : String) (reason : Regex.CompileError)
  deriving DecidableEq, Repr

/-- The text of a refusal. -/
def ValidationError.message : ValidationError → String
  | emptyPattern => "url pattern must not be empty"
  | emptyContent => "response content must not be empty"
  | invalidRegex pattern reason =>
    "invalid regular expression '" ++ pattern ++ "': " ++ reason.message

namespace RuleInput

/-- Why the input is refused, if it is; `pattern` is the entered one without white space at its ends. -/
def check (input : RuleInput) (pattern : String) : Except ValidationError Unit :=
  if pattern = "" then .error .emptyPattern
  else if input.content = "" then .error .emptyContent
  else if input.matchType = .regex then
    match Regex.compile pattern with
    | .ok _ => .ok ()
    | .error reason => .error (.invalidRegex pattern reason)
  else .ok ()

/-- The rule for an input that is accepted. -/
def toRule (input : RuleInput) (pattern : String) (now : Instant) : Rule where
  urlPattern := input.matchType.transport pattern
  originalPattern := pattern
  tag := input.matchType.tag
  patternKind := some input.matchType
  responseType := input.responseType
  responseContent := input.content
  resourceTypes := if input.resourceTypes.isEmpty then none else some input.resourceTypes
  priority := max input.priority 1
  enabled := true
  note := Text.trim input.note
  createdAt := now
  updatedAt := now

/-- The rule for an input. -/
def validate (input : RuleInput) (now : Instant) : Except ValidationError Rule := do
  let pattern := Text.trim input.pattern
  input.check pattern
  return input.toRule pattern now

end RuleInput

namespace Rule

/-- The rule with what is entered instead of what it was; it keeps its time of creation, and whether it
is enabled. -/
def revise (r : Rule) (input : RuleInput) (now : Instant) : Except ValidationError Rule := do
  let revised ← input.validate now
  return { revised with createdAt := r.createdAt, enabled := r.enabled }

end Rule

end ReplyRules
