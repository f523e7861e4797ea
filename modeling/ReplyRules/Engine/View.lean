import ReplyRules.Engine.Basic

/-!
What is seen of an engine from outside.  Nothing here waits for commands; all is told of the state that
was published last.
-/

namespace ReplyRules

/-- A summary of an engine. -/
structure Status where
  enabled : Bool
  /-- How many rules are stored. -/
  ruleCount : Nat
  /-- How many of them are enabled. -/
  activeCount : Nat
  /-- How many are installed. -/
  compiledCount : Nat
  deriving DecidableEq, Repr, Inhabited

namespace Engine

/-- The rules. -/
def rules (e : Engine) : List Rule := e.published.book.rules

/-- The installed set. -/
def ruleSet (e : Engine) : RuleSet := e.published.ruleSet

/-- A summary. -/
def status (e : Engine) : Status where
  enabled := e.published.book.enabled
  ruleCount := e.rules.length
  activeCount := (e.rules.filter Rule.enabled).length
  compiledCount := e.ruleSet.size

/-- The entries of the log, newest first. -/
def logs (e : Engine) : List LogEntry := e.log.toList

/-- The engine with an empty log. -/
def clearLogs (e : Engine) : Engine := { e with log := e.log.clear }

/-- The rules that match a query, with their places. -/
def search (e : Engine) (query : String) : List (Nat × Rule) :=
  (e.rules.zipIdx.filter fun (r, _) => query == "" || r.matchesQuery query).map fun (r, i) => (i, r)

/-- The document for the rules. -/
def exportText (e : Engine) : String := Rule.exportText e.rules

/-- Tells which rules apply to a request, and which of them answers it. -/
def explain (e : Engine) (request : Request) : MatchReport := e.ruleSet.explain request

/-- Answers a request, and notes down if there was an answer. -/
def simulate (e : Engine) (request : Request) (now : Instant) : Option CompiledRule × Engine :=
  match e.ruleSet.evaluate request with
  | none => (none, e)
  | some hit =>
    let entry := LogEntry.intercepted hit.id request.url request.kind.name now
    (some hit, { e with log := e.log.append entry })

end Engine

end ReplyRules
