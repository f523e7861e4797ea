import ReplyRules.Matching.Matcher
import ReplyRules.Reply.Payload
import ReplyRules.Traffic.Resource

/-!
Compiled rules, sets of them, and which rule of a set answers a request: of the rules that apply, the
first one with the greatest priority.
-/

namespace ReplyRules

/-- A rule that is ready for use. -/
structure CompiledRule where
  id : UInt32
  priority : UInt32
  matcher : Matcher
  resources : ResourceSet
  payload : Payload
  deriving DecidableEq, Repr, Inhabited

namespace CompiledRule

/-- Whether the rule applies to a request. -/
def appliesTo (r : CompiledRule) (request : Request) : Bool :=
  r.resources.contains request.kind && r.matcher.accepts request.url

end CompiledRule

/-- Rules in the order of their numbers, which count from 1. -/
structure RuleSet where
  rules : List CompiledRule
  deriving DecidableEq, Repr, Inhabited

/-- Which rules apply to a request, and which of them answers it. -/
structure MatchReport where
  winner : Option UInt32
  candidates : List UInt32
  deriving DecidableEq, Repr, Inhabited

namespace RuleSet

/-- The set without rules. -/
def empty : RuleSet := ⟨[]⟩

/-- The number of rules. -/
def size (s : RuleSet) : Nat := s.rules.length

/-- Whether there are no rules. -/
def isEmpty (s : RuleSet) : Bool := s.rules.isEmpty

/-- The rule with a number. -/
def get? (s : RuleSet) (id : UInt32) : Option CompiledRule :=
  match id.toNat with
  | 0 => none
  | n + 1 => s.rules[n]?

/-- The numbers of the rules. -/
def ids (s : RuleSet) : List UInt32 := s.rules.map CompiledRule.id

/-- The rules that apply to a request. -/
def candidates (s : RuleSet) (request : Request) : List CompiledRule :=
  s.rules.filter (·.appliesTo request)

/-- Of the best rule so far and a later one, the one that is preferred: the later one only if its
priority is greater. -/
def prefer (best : Option CompiledRule) (r : CompiledRule) : Option CompiledRule :=
  match best with
  | none => some r
  | some b => if b.priority < r.priority then some r else some b

/-- The rule that answers a request. -/
def evaluate (s : RuleSet) (request : Request) : Option CompiledRule :=
  (s.candidates request).foldl prefer none

/-- Tells which rules apply to a request, and which of them answers it. -/
def explain (s : RuleSet) (request : Request) : MatchReport where
  winner := (s.evaluate request).map CompiledRule.id
  candidates := (s.candidates request).map CompiledRule.id

/-- How a set is shown. -/
def display (s : RuleSet) : String := "RuleSet(" ++ toString s.size ++ " rules)"

end RuleSet

namespace MatchReport

/-- The rules that apply but do not answer. -/
def shadowed (r : MatchReport) : List UInt32 := r.candidates.filter fun id => some id != r.winner

/-- The numbers with commas between them. -/
def idTexts (ids : List UInt32) : String :=
  String.intercalate ", " (ids.map fun id => toString id.toNat)

/-- How a report is shown. -/
def display (r : MatchReport) : String :=
  "winner: " ++
    (match r.winner with
      | some id => "rule " ++ toString id.toNat
      | none => "none") ++
    ", candidates: [" ++ idTexts r.candidates ++ "]"

end MatchReport

end ReplyRules
