import ReplyRules.Engine.View
import ReplyRules.Proofs.Engine.Calls
import ReplyRules.Proofs.Matching.Survivors

/-!
Runs of engines.  An engine is started, and then commands are given to it, requests are answered, the log
is emptied and in the end it is stopped, in any order and at any times (`Event`).  What it comes to in a
run with a host is *reachable* with that host (`Engine.Reachable`); the host keeps its own state, and so
refuses what it likes in every call of the run.

Main result: in a run the published state is the one that commands start from, its rules are compiled as
they would be from scratch, and the cache holds exactly their matchers (`Engine.Settled`).  This is so
when an engine has been started and stays so whatever happens (`Engine.Reachable.settled`).
-/

namespace ReplyRules

variable {σ : Type}

/-- What can happen to an engine. -/
inductive Event where
  | command (command : Command)
  | request (request : Request)
  | clearLogs
  | stop

namespace Engine

/-! ### Steps of a run -/

/-- The engine after something has happened to it. -/
def react (host : Host σ) (now : Instant) (e : Engine) : Event → StateM σ Engine
  | .command command => do
    let (_, e) ← e.perform host now command
    return e
  | .request request => return (e.simulate request now).2
  | .clearLogs => return e.clearLogs
  | .stop => return e.stop

theorem react_command {host : Host σ} {now : Instant} {e e' : Engine} {s s' : σ} {command : Command}
    {result : Except EngineError Unit} (h : (e.perform host now command).run s = ((result, e'), s')) :
    (e.react host now (.command command)).run s = (e', s') := by
  show (let r := (e.perform host now command).run s; (r.1.2, r.2)) = _
  rw [h]

/-- The calls that an event leads to, and the engine afterwards. -/
inductive Reacts (now : Instant) (e : Engine) : Event → List HostCall → Engine → Prop
  | command {command : Command} {calls : List HostCall} {result : Except EngineError Unit × Engine}
      (h : Performs now e command calls result) : Reacts now e (.command command) calls result.2
  | request (request : Request) : Reacts now e (.request request) [] (e.simulate request now).2
  | clearLogs : Reacts now e .clearLogs [] e.clearLogs
  | stop : Reacts now e .stop [] e.stop

/-- **What an event does.**  Only commands lead to calls. -/
theorem react_watched (host : Host σ) (now : Instant) (e : Engine) (event : Event) (s : σ)
    (calls : List HostCall) :
    ∃ new, Reacts now e event new ((e.react host now event).run s).1 ∧
      (e.react host.watched now event).run (s, calls) =
        (((e.react host now event).run s).1, ((e.react host now event).run s).2, calls ++ new) := by
  cases event with
  | command command =>
    obtain ⟨new, hperforms, hwatched⟩ := perform_watched host now e command s calls
    refine ⟨new, .command hperforms, ?_⟩
    show (let r := (e.perform host.watched now command).run (s, calls); (r.1.2, r.2)) = _
    rw [hwatched]
    rfl
  | request request => exact ⟨[], .request request, by rw [List.append_nil]; rfl⟩
  | clearLogs => exact ⟨[], .clearLogs, by rw [List.append_nil]; rfl⟩
  | stop => exact ⟨[], .stop, by rw [List.append_nil]; rfl⟩

/-! ### Runs -/

/-- A run with the host has come to the engine, and the host to the state `s`. -/
inductive Reachable (host : Host σ) (settings : Settings) : Engine → σ → Prop
  | start {now : Instant} {e : Engine} {s₀ s : σ}
      (h : (Engine.start host settings now).run s₀ = (.started e, s)) : Reachable host settings e s
  | react {e : Engine} {s : σ} (h : Reachable host settings e s) (now : Instant) (event : Event) :
      Reachable host settings ((e.react host now event).run s).1 ((e.react host now event).run s).2

/-! ### Settled engines -/

/-- What holds of an engine between two events. -/
structure Settled (e : Engine) : Prop where
  published_eq : e.published = e.current
  ruleSet_eq : ∀ now, e.current.ruleSet =
    (compile e.current.book.rules e.current.book.enabled now).ruleSet
  sound : e.cache.Sound
  mem_keys : ∀ key, key ∈ e.cache.keys ↔ key ∈ e.current.ruleSet.keys

variable {host : Host σ} {settings : Settings} {now : Instant} {e e' : Engine} {s : σ}

/-- With a sound cache, a state is compiled as it is from scratch, at any time. -/
theorem compileWith_ruleSet_eq_compile {previous : MatcherCache} (hp : previous.Sound)
    (book : RuleBook) (now now' : Instant) :
    (compileWith previous book.rules book.enabled now).ruleSet =
      (compile book.rules book.enabled now').ruleSet := by
  rw [compile, compileWith_ruleSet hp, compileWith_ruleSet MatcherCache.sound_empty]

/-- An engine is settled when it has just taken over what was compiled. -/
theorem settled_of_compileWith {previous : MatcherCache} (hp : previous.Sound) {book : RuleBook}
    (hpublished : e.published = e.current)
    (hcurrent : e.current = ⟨book, (compileWith previous book.rules book.enabled now).ruleSet⟩)
    (hcache : e.cache = (compileWith previous book.rules book.enabled now).cache) : e.Settled where
  published_eq := hpublished
  ruleSet_eq now' := by
    rw [hcurrent]
    exact compileWith_ruleSet_eq_compile hp book now now'
  sound := by
    rw [hcache]
    exact (compileWith_cache hp book.rules book.enabled now).1
  mem_keys := by
    rw [hcache, hcurrent]
    exact (compileWith_cache hp book.rules book.enabled now).2

theorem settled_of_starts {calls : List HostCall} (h : Starts settings now calls (.started e)) :
    e.Settled := by
  cases h with
  | started book _ => exact settled_of_compileWith MatcherCache.sound_empty rfl rfl rfl

/-- **One step.**  A command is refused or its state is taken over as a whole; nothing else touches the
state. -/
theorem Settled.reacts (h : e.Settled) {event : Event} {calls : List HostCall}
    (hreacts : Reacts now e event calls e') : e'.Settled := by
  cases hreacts with
  | command hperforms =>
    cases hperforms with
    | refused _ _ => exact h
    | notStored _ _ _ => exact h
    | notInstalled _ _ _ _ _ => exact h
    | committed _ _ => exact settled_of_compileWith h.sound rfl rfl rfl
  | request request =>
    rw [simulate]
    split
    · exact h
    · exact ⟨h.published_eq, h.ruleSet_eq, h.sound, h.mem_keys⟩
  | clearLogs => exact ⟨h.published_eq, h.ruleSet_eq, h.sound, h.mem_keys⟩
  | stop => exact ⟨h.published_eq, h.ruleSet_eq, h.sound, h.mem_keys⟩

/-- **Every reachable engine is settled.** -/
theorem Reachable.settled (h : Reachable host settings e s) : e.Settled := by
  induction h with
  | @start now e s₀ s h =>
    obtain ⟨calls, hstarts, -⟩ := start_watched host settings now s₀ []
    rw [h] at hstarts
    exact settled_of_starts hstarts
  | @react e s _ now event ih =>
    obtain ⟨calls, hreacts, -⟩ := react_watched host now e event s []
    exact ih.reacts hreacts

/-! ### A book with a rule -/

/-- A book with one rule, which is compiled. -/
def oneRule : RuleBook where
  rules := [{ (default : Rule) with
    urlPattern := "*a*"
    tag := .urlFilter
    responseContent := "x"
    priority := 1
    enabled := true }]
  enabled := true

theorem keys_compile_oneRule :
    (compile oneRule.rules oneRule.enabled .epoch).ruleSet.keys = [(.urlFilter, "*a*")] := by
  decide +kernel

/-- What is compiled of the book is another set than that of no rules. -/
theorem compile_oneRule_ne_empty :
    (compile oneRule.rules oneRule.enabled .epoch).ruleSet ≠ .empty := by
  intro hempty
  have hkeys := keys_compile_oneRule
  rw [hempty] at hkeys
  cases hkeys

/-! ### A stubborn host -/

/-- A host that has a book and stores whatever it is given, but takes no set of rules after the
first. -/
def stubborn (book : RuleBook) : Host Bool where
  load _ := pure (.ok book)
  save _ := pure (.ok ())
  install _ := fun taken => (if taken then .error ⟨"busy"⟩ else .ok (), true)

theorem reachable_stubborn (book : RuleBook) (now : Instant) :
    Reachable (stubborn book) .initial
      (ofCompilation .initial book (compile book.rules book.enabled now)) true := by
  have hstart : (start (stubborn book) .initial now).run false =
      (.started (ofCompilation .initial book (compile book.rules book.enabled now)), true) := by
    rw [run_start]
    rfl
  exact .start hstart

end Engine

end ReplyRules
