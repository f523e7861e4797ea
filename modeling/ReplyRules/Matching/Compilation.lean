import ReplyRules.Matching.Cache
import ReplyRules.Matching.RuleSet
import ReplyRules.Log.Entry
import ReplyRules.Rule.Basic

/-!
Compiling a list of rules.  Rules that are disabled or incomplete are passed over; a rule whose pattern
cannot be compiled is left out and told of in an entry for the log; the others are numbered from 1.
While the global switch is off, nothing is compiled.
-/

namespace ReplyRules

/-- What comes out of compiling a list of rules. -/
structure Compilation where
  ruleSet : RuleSet
  /-- An entry for each rule that was compiled or could not be, in the order of the rules. -/
  diagnostics : List LogEntry
  /-- The matchers in use. -/
  cache : MatcherCache
  /-- How many matchers had to be compiled. -/
  freshMatchers : Nat
  deriving DecidableEq, Repr, Inhabited

namespace Rule

/-- Whether the rule is to be compiled. -/
def isEligible (r : Rule) : Bool := r.enabled && r.isComplete

/-- What the entry of a compiled rule says of it. -/
def summary (r : Rule) : String := r.tag.name ++ " -> " ++ r.responseType.name

/-- What the entry of a rule that cannot be compiled says of it. -/
def failureText (r : Rule) (e : Regex.CompileError) : String :=
  "cannot compile pattern '" ++ r.urlPattern ++ "': " ++ e.message

/-- The rule with a number and a matcher. -/
def compiled (r : Rule) (id : UInt32) (matcher : Matcher) : CompiledRule where
  id := id
  priority := r.effectivePriority
  matcher := matcher
  resources := ResourceSet.ofFilter r.resourceTypes
  payload := Payload.ofContent r.responseContent r.responseType

end Rule

namespace Compilation

/-- The compilation of no rules. -/
def empty : Compilation := ⟨.empty, [], .empty, 0⟩

/-- The number of the rule that follows `n` others; the numbers end at the greatest of 32 bits. -/
def nextId (n : Nat) : UInt32 := UInt32.ofNat (min (n + 1) (Nat.pow 2 32 - 1))

/-- The compilation with one more rule. -/
def addRule (previous : MatcherCache) (now : Instant) (c : Compilation) (r : Rule) : Compilation :=
  match previous.resolve r.urlPattern r.tag c.cache with
  | .ok resolved =>
    let id := nextId c.ruleSet.size
    { ruleSet := ⟨c.ruleSet.rules ++ [r.compiled id resolved.matcher]⟩
      diagnostics := c.diagnostics ++ [.registered id r.urlPattern r.summary now]
      cache := resolved.next
      freshMatchers := c.freshMatchers + if resolved.fresh then 1 else 0 }
  | .error e =>
    { c with diagnostics := c.diagnostics ++ [.error r.urlPattern (r.failureText e) now] }

end Compilation

/-- Compiles a list of rules with the matchers of a previous compilation. -/
def compileWith (previous : MatcherCache) (rules : List Rule) (enabled : Bool) (now : Instant) :
    Compilation :=
  if enabled then (rules.filter Rule.isEligible).foldl (Compilation.addRule previous now) .empty
  else .empty

/-- Compiles a list of rules. -/
def compile (rules : List Rule) (enabled : Bool) (now : Instant) : Compilation :=
  compileWith .empty rules enabled now

end ReplyRules
