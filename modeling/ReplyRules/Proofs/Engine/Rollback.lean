import ReplyRules.Proofs.Engine.Run

/-!
Commands are carried out as a whole or not at all.  A command asks for a new state
(`Command.Changes`); where it does not get as far as that, no call is made.  Otherwise the error tells at
which call the command was broken off, and with it which calls were made (`Engine.CallsFor`): the store
is asked once, and if the backend refuses, both are given the state before, whether or not they take it.

Main result: with an error the engine is what it was, and the calls are those of the error; without one
the published state is the one that was asked for (`Engine.Reachable.perform_all_or_nothing`).
-/

namespace ReplyRules

variable {σ : Type}

/-! ### What a command asks for -/

/-- The command asks for the state `after` where the state is `before`.  An edit leaves the switch as it
is, and the rules of a document are appended as an edit would append them. -/
def Command.Changes (now : Instant) (before after : RuleBook) : Command → Prop
  | .edit change => change.apply now before.rules = .ok after.rules ∧ after.enabled = before.enabled
  | .importDocument text =>
    ∃ imported, Rule.ofDocument now text = .ok imported ∧
      (Edit.importRules imported).apply now before.rules = .ok after.rules ∧
      after.enabled = before.enabled
  | .switchTo enabled => after.rules = before.rules ∧ after.enabled = enabled

namespace Engine

variable {host : Host σ} {settings : Settings} {now : Instant} {e : Engine} {s : σ} {command : Command}

/-- Why a command makes no call. -/
def RefusedFor (now : Instant) (e : Engine) (command : Command) : EngineError → Prop
  | .edit err =>
    e.running = true ∧ ∃ edit, command = .edit edit ∧
      edit.apply now e.current.book.rules = .error err
  | .notImported err => ∃ text, command = .importDocument text ∧ Rule.ofDocument now text = .error err
  | .closed => e.running = false
  | .store _ => False
  | .backend _ => False

/-- A command reaches a running engine, unless it is a document that cannot be read. -/
theorem receive_spec (now : Instant) (e : Engine) (command : Command) :
    match e.receive now command with
    | .ok _ => e.running = true
    | .error err => RefusedFor now e command err := by
  have gate :
      match (if e.running then Except.ok () else Except.error EngineError.closed) with
      | .ok _ => e.running = true
      | .error err => RefusedFor now e command err := by
    cases hrunning : e.running with
    | true => rfl
    | false => exact hrunning
  cases command with
  | edit edit => exact gate
  | importDocument text =>
    simp only [receive]
    cases hread : Rule.ofDocument now text with
    | ok imported => exact gate
    | error err => exact ⟨text, rfl, hread⟩
  | switchTo enabled => exact gate

/-- A command to a running engine asks for a change, unless the change is refused. -/
theorem target_spec (now : Instant) (command : Command) (hrunning : e.running = true) :
    match e.target now command with
    | .ok next => command.Changes now e.current.book next
    | .error err => RefusedFor now e command err := by
  cases command with
  | edit edit =>
    simp only [target]
    cases happly : edit.apply now e.current.book.rules with
    | ok rules => exact ⟨happly, rfl⟩
    | error err => exact ⟨hrunning, edit, rfl, happly⟩
  | importDocument text =>
    simp only [target]
    cases hread : Rule.ofDocument now text with
    | ok imported => exact ⟨imported, hread, rfl, rfl⟩
    | error err => exact ⟨text, rfl, hread⟩
  | switchTo enabled => exact ⟨rfl, rfl⟩

/-- What gets as far as the calls is a change that a running engine is asked for. -/
theorem proposal_spec (now : Instant) (e : Engine) (command : Command) :
    match e.proposal now command with
    | .ok next => e.running = true ∧ command.Changes now e.current.book next
    | .error err => RefusedFor now e command err := by
  have hreceive := receive_spec now e command
  unfold proposal
  cases hr : e.receive now command with
  | error err =>
    rw [hr] at hreceive
    exact hreceive
  | ok _ =>
    rw [hr] at hreceive
    have htarget := target_spec now command hreceive
    show match e.target now command with
      | .ok next => e.running = true ∧ command.Changes now e.current.book next
      | .error err => RefusedFor now e command err
    cases ht : e.target now command with
    | ok next =>
      rw [ht] at htarget
      exact ⟨hreceive, htarget⟩
    | error err =>
      rw [ht] at htarget
      exact htarget

/-! ### All or nothing -/

/-- The calls of a command that ends with an error. -/
def CallsFor (now : Instant) (e : Engine) (command : Command) (calls : List HostCall) :
    EngineError → Prop
  | .edit err =>
    calls = [] ∧ e.running = true ∧ ∃ edit, command = .edit edit ∧
      edit.apply now e.published.book.rules = .error err
  | .notImported err =>
    calls = [] ∧ ∃ text, command = .importDocument text ∧ Rule.ofDocument now text = .error err
  | .closed => calls = [] ∧ e.running = false
  | .store err =>
    ∃ next, command.Changes now e.published.book next ∧ calls = [.save next (.error err)]
  | .backend err =>
    ∃ next stored installed, command.Changes now e.published.book next ∧
      calls =
        [.save next (.ok ()), .install (compile next.rules next.enabled now).ruleSet (.error err),
          .save e.published.book stored, .install e.published.ruleSet installed]

theorem Settled.recompile_ruleSet (h : e.Settled) (book : RuleBook) :
    (e.recompile now book).ruleSet = (compile book.rules book.enabled now).ruleSet :=
  compileWith_ruleSet_eq_compile h.sound book now now

/-- **A command is carried out as a whole or not at all.**  With an error the engine is what it was, and
the error fixes the calls; an engine that has been stopped makes none.  Without an error the state that
was asked for is stored, installed and published. -/
theorem Reachable.perform_all_or_nothing (h : Reachable host settings e s) (now : Instant)
    (command : Command) :
    ∃ calls,
      (e.perform host.watched now command).run (s, []) =
        (((e.perform host now command).run s).1, ((e.perform host now command).run s).2, calls) ∧
      (e.running = false → calls = []) ∧
      match ((e.perform host now command).run s).1 with
      | (.error err, e') => e' = e ∧ CallsFor now e command calls err
      | (.ok (), e') =>
        command.Changes now e.published.book e'.published.book ∧
        e'.published.ruleSet =
          (compile e'.published.book.rules e'.published.book.enabled now).ruleSet ∧
        e'.current = e'.published ∧
        calls = [.save e'.published.book (.ok ()), .install e'.published.ruleSet (.ok ())] := by
  have hsettled := h.settled
  have hspec := proposal_spec now e command
  rw [← hsettled.published_eq] at hspec
  have hproposed {next : RuleBook} (hproposal : e.proposal now command = .ok next) :
      e.running ≠ false ∧ command.Changes now e.published.book next := by
    rw [hproposal] at hspec
    exact ⟨Bool.ne_false_iff.mpr hspec.1, hspec.2⟩
  obtain ⟨calls, hperforms, hwatched⟩ := perform_watched host now e command s []
  refine ⟨calls, hwatched, ?_⟩
  clear hwatched
  generalize ((e.perform host now command).run s).1 = result at hperforms
  cases hperforms with
  | refused err hproposal =>
    -- only what comes before the calls can be the reason
    refine ⟨fun _ => rfl, rfl, ?_⟩
    rw [hproposal] at hspec
    cases err with
    | edit err =>
      obtain ⟨hrunning, edit, hedit, happly⟩ := hspec
      rw [← hsettled.published_eq] at happly
      exact ⟨rfl, hrunning, edit, hedit, happly⟩
    | notImported err => exact ⟨rfl, hspec⟩
    | closed => exact ⟨rfl, hspec⟩
    | store err => exact hspec.elim
    | backend err => exact hspec.elim
  | notStored next hproposal err =>
    obtain ⟨hrunning, hchanges⟩ := hproposed hproposal
    exact ⟨fun hstopped => absurd hstopped hrunning, rfl, next, hchanges, rfl⟩
  | notInstalled next hproposal err stored installed =>
    obtain ⟨hrunning, hchanges⟩ := hproposed hproposal
    refine ⟨fun hstopped => absurd hstopped hrunning, rfl, next, stored, installed, hchanges, ?_⟩
    rw [hsettled.recompile_ruleSet, hsettled.published_eq]
  | committed next hproposal =>
    obtain ⟨hrunning, hchanges⟩ := hproposed hproposal
    exact ⟨fun hstopped => absurd hstopped hrunning, hchanges, hsettled.recompile_ruleSet next, rfl,
      rfl⟩

/-- Where the backend takes no second set, the switch stays on, and the set of the rule is installed again
instead of the one of no rules. -/
theorem switchTo_stubborn_rolls_back :
    let e := ofCompilation .initial oneRule (compile oneRule.rules oneRule.enabled .epoch)
    e.published.ruleSet ≠ .empty ∧
    ∃ stored installed,
      (e.perform (stubborn oneRule).watched .epoch (.switchTo false)).run (true, []) =
        ((.error (.backend ⟨"busy"⟩), e), true,
          [.save ⟨oneRule.rules, false⟩ (.ok ()), .install .empty (.error ⟨"busy"⟩),
            .save oneRule stored, .install e.published.ruleSet installed]) := by
  intro e
  have hreachable : Reachable (stubborn oneRule) .initial e true := reachable_stubborn oneRule .epoch
  obtain ⟨calls, hwatched, -, houtcome⟩ :=
    hreachable.perform_all_or_nothing .epoch (.switchTo false)
  have hrun : (e.perform (stubborn oneRule) .epoch (.switchTo false)).run true =
      ((.error (.backend ⟨"busy"⟩), e), true) := rfl
  rw [hrun] at hwatched houtcome
  obtain ⟨-, ⟨rules, enabled⟩, stored, installed, ⟨rfl, rfl⟩, rfl⟩ := houtcome
  exact ⟨compile_oneRule_ne_empty, stored, installed, hwatched⟩

end Engine

end ReplyRules
