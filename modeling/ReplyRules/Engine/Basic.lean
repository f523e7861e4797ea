import ReplyRules.Engine.Edit
import ReplyRules.Config.Settings
import ReplyRules.Matching.Compilation

/-!
The engine, and what it works with: a store for the rule book, and a backend that answers requests by the
rules it is given.  Either may refuse; what they remember is their state, about which nothing is said here.
The engine owns the rules: a command makes a new list of rules or moves the switch, and the result is
compiled, stored and given to the backend before anyone sees it.  If the store refuses, nothing has
happened; if the backend refuses, the state before is stored and installed again.
-/

namespace ReplyRules

/-- Why a backend does not take a set of rules. -/
structure BackendError where
  reason : String
  deriving DecidableEq, Repr, Inhabited

/-- The text of a refusal. -/
def BackendError.message (e : BackendError) : String :=
  "interception backend rejected update: " ++ e.reason

/-- A store and a backend with states of type `σ`. -/
structure Host (σ : Type) where
  /-- The stored book. -/
  load : Instant → StateM σ (Except StoreError RuleBook)
  /-- Stores a book in place of the one before. -/
  save : RuleBook → StateM σ (Except StoreError Unit)
  /-- Answers requests by a set of rules from now on. -/
  install : RuleSet → StateM σ (Except BackendError Unit)

/-- Why an engine does not do what it is asked. -/
inductive EngineError where
  | edit (e : EditError)
  | store (e : StoreError)
  | backend (e : BackendError)
  | notImported (e : ImportError)
  /-- The engine has been stopped. -/
  | closed
  deriving DecidableEq, Repr

/-- The text of an error. -/
def EngineError.message : EngineError → String
  | edit e => e.message
  | store e => e.message
  | backend e => e.message
  | notImported e => e.message
  | closed => "engine task has shut down"

/-- A state that has been stored and installed: the rules, the switch, and the set compiled from them. -/
structure Snapshot where
  book : RuleBook
  ruleSet : RuleSet
  deriving DecidableEq, Repr, Inhabited

/-- An engine. -/
structure Engine where
  /-- The state that commands start from. -/
  current : Snapshot
  /-- The matchers in use. -/
  cache : MatcherCache
  /-- The state that is seen from outside. -/
  published : Snapshot
  log : EventLog
  /-- Whether commands are still taken. -/
  running : Bool
  deriving DecidableEq, Repr, Inhabited

/-- What comes of starting an engine. -/
inductive Start where
  | refused (e : EngineError)
  /-- So many commands cannot be made to wait; the start is broken off with the rules installed. -/
  | brokenOff
  | started (engine : Engine)
  deriving DecidableEq, Repr

/-- A command to an engine. -/
inductive Command where
  | edit (e : Edit)
  /-- Appends the rules of a document. -/
  | importDocument (text : String)
  /-- Moves the global switch. -/
  | switchTo (enabled : Bool)
  deriving DecidableEq, Repr

namespace Engine

/-- How many commands can be made to wait. -/
def maxCommandBuffer : Nat := (Nat.pow 2 64 - 1) / 8

/-- The engine for a book and what is compiled from it. -/
def ofCompilation (settings : Settings) (book : RuleBook) (c : Compilation) : Engine where
  current := ⟨book, c.ruleSet⟩
  cache := c.cache
  published := ⟨book, c.ruleSet⟩
  log := (EventLog.withCapacity settings.logCapacity).extend c.diagnostics
  running := true

/-- Starts an engine with the stored book. -/
def start (host : Host σ) (settings : Settings) (now : Instant) : StateM σ Start := do
  match ← host.load now with
  | .error e => return .refused (.store e)
  | .ok book =>
    let c := compile book.rules book.enabled now
    match ← host.install c.ruleSet with
    | .error e => return .refused (.backend e)
    | .ok () =>
      if maxCommandBuffer < max settings.commandBuffer 1 then return .brokenOff
      else return .started (ofCompilation settings book c)

/-- Stores and installs the current state again, as far as that is possible. -/
def restore (host : Host σ) (e : Engine) : StateM σ Unit := do
  let _ ← host.save e.current.book
  let _ ← host.install e.current.ruleSet

/-- The engine with a new state. -/
def commit (e : Engine) (book : RuleBook) (c : Compilation) : Engine where
  current := ⟨book, c.ruleSet⟩
  cache := c.cache
  published := ⟨book, c.ruleSet⟩
  log := e.log.extend c.diagnostics
  running := e.running

/-- Moves to another state. -/
def transition (host : Host σ) (now : Instant) (e : Engine) (book : RuleBook) :
    StateM σ (Except EngineError Unit × Engine) := do
  let c := compileWith e.cache book.rules book.enabled now
  match ← host.save book with
  | .error err => return (.error (.store err), e)
  | .ok () =>
    match ← host.install c.ruleSet with
    | .error err =>
      e.restore host
      return (.error (.backend err), e)
    | .ok () => return (.ok (), e.commit book c)

/-- The state a command asks for. -/
def target (now : Instant) (e : Engine) : Command → Except EngineError RuleBook
  | .edit edit =>
    match edit.apply now e.current.book.rules with
    | .ok rules => .ok { e.current.book with rules := rules }
    | .error err => .error (.edit err)
  | .importDocument text =>
    match Rule.ofDocument now text with
    | .ok rules => .ok { e.current.book with rules := e.current.book.rules ++ Rule.complete rules }
    | .error err => .error (.notImported err)
  | .switchTo enabled => .ok { e.current.book with enabled := enabled }

/-- Why a command does not reach the engine, if it does not.  A document is read before it is sent. -/
def receive (now : Instant) (e : Engine) : Command → Except EngineError Unit
  | .importDocument text =>
    match Rule.ofDocument now text with
    | .ok _ => if e.running then .ok () else .error .closed
    | .error err => .error (.notImported err)
  | _ => if e.running then .ok () else .error .closed

/-- Carries out a command. -/
def perform (host : Host σ) (now : Instant) (e : Engine) (command : Command) :
    StateM σ (Except EngineError Unit × Engine) :=
  match e.receive now command with
  | .error err => return (.error err, e)
  | .ok () =>
    match e.target now command with
    | .error err => return (.error err, e)
    | .ok book => e.transition host now book

/-- The engine when it has been stopped. -/
def stop (e : Engine) : Engine := { e with running := false }

end Engine

end ReplyRules
