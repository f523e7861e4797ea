import ReplyRules.Proofs.Engine.Run
import ReplyRules.Proofs.Log.EventLog

/-!
What an engine has noted down.  Three kinds of things are noted down in a run: what the start has compiled,
what every command has compiled that was carried out, and every request that was answered.  All of them, in
their order, are the history of the run, which begins anew when the log is emptied (`Engine.History`).
Commands that fail and requests without an answer have no part in it; and who only looks at an engine, at its
rules or its log, or asks which rules apply, gets an answer but no other engine, so this is no event at all.

The history is told by what is seen from outside: results, answers, and the states that are published; and
its entries are those of a compilation from scratch.  That an engine compiles with the matchers that it has
kept makes no difference to them, because the cache of an engine is sound.

Main result: every run has a history, and the log shows its newest entries, as many as it has room for
(`Engine.logs_eq_newest`).
-/

namespace ReplyRules.Engine

variable {σ : Type} {host : Host σ} {settings : Settings} {now : Instant} {e e' : Engine} {s s' : σ}
  {entries : List LogEntry} {command : Command}

/-! ### Histories -/

/-- A run with the host has come to the engine, and the host to the state `s`, and these are the entries
since the start, or since the log was emptied last, the oldest first. -/
inductive History (host : Host σ) (settings : Settings) : List LogEntry → Engine → σ → Prop
  | started {now : Instant} {book : RuleBook} {e : Engine} {s₀ s : σ}
      (hload : (host.load now s₀).1 = .ok book)
      (h : (Engine.start host settings now).run s₀ = (.started e, s)) :
      History host settings (compile book.rules book.enabled now).diagnostics e s
  | succeeded {entries : List LogEntry} {e e' : Engine} {s s' : σ} {command : Command}
      (before : History host settings entries e s) (now : Instant)
      (h : (e.perform host now command).run s = ((.ok (), e'), s')) :
      History host settings
        (entries ++ (compile e'.published.book.rules e'.published.book.enabled now).diagnostics) e' s'
  | failed {entries : List LogEntry} {e e' : Engine} {s s' : σ} {command : Command} {err : EngineError}
      (before : History host settings entries e s) (now : Instant)
      (h : (e.perform host now command).run s = ((.error err, e'), s')) :
      History host settings entries e' s'
  | answered {entries : List LogEntry} {e e' : Engine} {s : σ} {request : Request} {hit : CompiledRule}
      (before : History host settings entries e s) (now : Instant)
      (hwinner : e.ruleSet.evaluate request = some hit)
      (h : e.simulate request now = (some hit, e')) :
      History host settings
        (entries ++ [.intercepted hit.id request.url request.kind.name now]) e' s
  | unanswered {entries : List LogEntry} {e e' : Engine} {s : σ} {request : Request}
      (before : History host settings entries e s) (now : Instant)
      (hnone : e.ruleSet.evaluate request = none) (h : e.simulate request now = (none, e')) :
      History host settings entries e' s
  | cleared {entries : List LogEntry} {e : Engine} {s : σ}
      (before : History host settings entries e s) : History host settings [] e.clearLogs s
  | stopped {entries : List LogEntry} {e : Engine} {s : σ}
      (before : History host settings entries e s) : History host settings entries e.stop s

theorem History.reachable (h : History host settings entries e s) : Reachable host settings e s := by
  induction h with
  | started _ h => exact .start h
  | @succeeded _ _ _ _ _ command _ now h ih =>
    have hreact := ih.react now (.command command)
    rwa [react_command h] at hreact
  | @failed _ _ _ _ _ command _ _ now h ih =>
    have hreact := ih.react now (.command command)
    rwa [react_command h] at hreact
  | @answered _ e e' s request _ _ now _ h ih =>
    have hreact : Reachable host settings (e.simulate request now).2 s := ih.react now (.request request)
    rwa [h] at hreact
  | @unanswered _ e e' s request _ now _ h ih =>
    have hreact : Reachable host settings (e.simulate request now).2 s := ih.react now (.request request)
    rwa [h] at hreact
  | @cleared _ e s _ ih => exact ih.react .epoch .clearLogs
  | @stopped _ e s _ ih => exact ih.react .epoch .stop

/-- The winner is given as the answer and is noted down. -/
theorem simulate_spec (e : Engine) (request : Request) (now : Instant) :
    e.simulate request now =
      match e.ruleSet.evaluate request with
      | some hit =>
        (some hit,
          { e with log := e.log.extend [.intercepted hit.id request.url request.kind.name now] })
      | none => (none, e) := by
  rw [simulate]
  cases e.ruleSet.evaluate request with
  | none => rfl
  | some hit => rfl

/-- A request that has a winner is answered. -/
theorem History.of_winner {request : Request} {hit : CompiledRule}
    (before : History host settings entries e s) (now : Instant)
    (hwinner : e.ruleSet.evaluate request = some hit) :
    History host settings (entries ++ [.intercepted hit.id request.url request.kind.name now])
      (e.simulate request now).2 s := by
  have hspec := simulate_spec e request now
  rw [hwinner] at hspec
  rw [hspec]
  exact before.answered now hwinner hspec

/-- An engine that has been started has loaded a book. -/
theorem exists_load_of_start {s₀ : σ} (h : (start host settings now).run s₀ = (.started e, s)) :
    ∃ book, (host.load now s₀).1 = .ok book ∧
      e = ofCompilation settings book (compile book.rules book.enabled now) := by
  rw [run_start] at h
  rcases hload : host.load now s₀ with ⟨err | book, s₁⟩
  · rw [hload] at h
    cases h
  rw [hload] at h
  rcases hinstall : host.install (compile book.rules book.enabled now).ruleSet s₁ with ⟨err | ⟨⟩, s₂⟩
  · simp only [hinstall] at h
    cases h
  · simp only [hinstall] at h
    split at h
    · cases h
    · cases h
      exact ⟨book, rfl, rfl⟩

/-- Every run has a history. -/
theorem Reachable.exists_history (h : Reachable host settings e s) :
    ∃ entries, History host settings entries e s := by
  induction h with
  | start h =>
    obtain ⟨book, hload, -⟩ := exists_load_of_start h
    exact ⟨_, .started hload h⟩
  | @react e s _ now event ih =>
    obtain ⟨entries, hhistory⟩ := ih
    cases event with
    | command command =>
      -- the result tells whether anything is noted down
      rcases h : (e.perform host now command).run s with ⟨⟨err | ⟨⟩, e'⟩, s'⟩
      · rw [react_command h]
        exact ⟨_, hhistory.failed now h⟩
      · rw [react_command h]
        exact ⟨_, hhistory.succeeded now h⟩
    | request request =>
      show ∃ entries, History host settings entries (e.simulate request now).2 s
      cases hwinner : e.ruleSet.evaluate request with
      | none =>
        have hspec := simulate_spec e request now
        rw [hwinner] at hspec
        rw [hspec]
        exact ⟨_, hhistory.unanswered now hwinner hspec⟩
      | some hit => exact ⟨_, hhistory.of_winner now hwinner⟩
    | clearLogs => exact ⟨_, hhistory.cleared⟩
    | stop => exact ⟨_, hhistory.stopped⟩

/-! ### The log -/

/-- The log keeps the history, and has the room that was set for it. -/
structure Notes (settings : Settings) (entries : List LogEntry) (e : Engine) : Prop where
  capacity_eq : e.log.capacity = settings.logCapacity
  keeps : e.log.Keeps entries

theorem Notes.extend {entries es : List LogEntry} (h : Notes settings entries e)
    (hlog : e'.log = e.log.extend es) : Notes settings (entries ++ es) e' where
  capacity_eq := by rw [hlog, EventLog.capacity_extend, h.capacity_eq]
  keeps := by
    rw [hlog]
    exact h.keeps.extend es

/-- With an error a command leaves the engine as it was; without one it takes over what was compiled. -/
theorem perform_spec (host : Host σ) (now : Instant) (e : Engine) (command : Command) (s : σ) :
    match ((e.perform host now command).run s).1 with
    | (.ok (), e') => ∃ book, e' = e.commit book (e.recompile now book)
    | (.error _, e') => e' = e := by
  obtain ⟨calls, hperforms, -⟩ := perform_watched host now e command s []
  generalize ((e.perform host now command).run s).1 = result at hperforms
  cases hperforms with
  | refused err h => rfl
  | notStored book h err => rfl
  | notInstalled book h err stored installed => rfl
  | committed book h => exact ⟨book, rfl⟩

/-- A command that is carried out notes down what its state is compiled to from scratch. -/
theorem Settled.log_of_perform (hsettled : e.Settled)
    (h : (e.perform host now command).run s = ((.ok (), e'), s')) :
    e'.log = e.log.extend
      (compile e'.published.book.rules e'.published.book.enabled now).diagnostics := by
  have hspec := perform_spec host now e command s
  rw [h] at hspec
  obtain ⟨book, rfl⟩ := hspec
  show e.log.extend (e.recompile now book).diagnostics = _
  rw [recompile, compileWith_diagnostics hsettled.sound]
  rfl

theorem History.notes (h : History host settings entries e s) : Notes settings entries e := by
  induction h with
  | @started now book e s₀ s hload h =>
    obtain ⟨book', hload', rfl⟩ := exists_load_of_start h
    obtain rfl : book = book' := Except.ok.inj (hload.symm.trans hload')
    exact ⟨EventLog.capacity_extend _ _, (EventLog.keeps_withCapacity _).extend _⟩
  | @succeeded entries e e' s s' command before now h ih =>
    exact ih.extend (before.reachable.settled.log_of_perform h)
  | @failed entries e e' s s' command err before now h ih =>
    have hspec := perform_spec host now e command s
    rw [h] at hspec
    obtain rfl : e' = e := hspec
    exact ih
  | @answered entries e e' s request hit before now hwinner h ih =>
    rw [simulate_spec, hwinner] at h
    obtain ⟨-, rfl⟩ := Prod.mk.inj h
    exact ih.extend rfl
  | @unanswered entries e e' s request before now hnone h ih =>
    rw [simulate_spec, hnone] at h
    obtain ⟨-, rfl⟩ := Prod.mk.inj h
    exact ih
  | cleared _ ih => exact ⟨ih.capacity_eq, EventLog.keeps_clear _⟩
  | stopped _ ih => exact ⟨ih.capacity_eq, ih.keeps⟩

/-- **The log shows the newest entries of the history**, the newest first, as many as it has room for; and
the runs are those that have a history. -/
theorem logs_eq_newest (host : Host σ) (settings : Settings) :
    (∀ e s, Reachable host settings e s ↔ ∃ entries, History host settings entries e s) ∧
    ∀ entries e s, History host settings entries e s →
      e.logs = entries.reverse.take settings.logCapacity := by
  refine ⟨fun e s => ⟨Reachable.exists_history, ?_⟩, fun entries e s h => ?_⟩
  · rintro ⟨entries, h⟩
    exact h.reachable
  · have hnotes := h.notes
    rw [← hnotes.capacity_eq]
    exact hnotes.keeps

/-- A log with room for two entries, an engine that compiles one rule, a command that fails, and two
answers: of the three entries the first is gone. -/
theorem logs_of_full_log :
    let settings : Settings := { Settings.initial with logCapacity := 2 }
    let r : Rule :=
      { (default : Rule) with
        urlPattern := "*", tag := .urlFilter, responseContent := "x", enabled := true }
    ∃ e s, Reachable (stubborn ⟨[r], true⟩) settings e s ∧
      e.logs = [.intercepted 1 "https://b" "main_frame" .epoch,
        .intercepted 1 "https://a" "main_frame" .epoch] := by
  intro settings r
  let book : RuleBook := ⟨[r], true⟩
  let started := ofCompilation settings book (compile book.rules book.enabled .epoch)
  have hstart : (start (stubborn book) settings .epoch).run false = (.started started, true) := by
    rw [run_start]
    rfl
  have hfail : (started.perform (stubborn book) .epoch (.switchTo false)).run true =
      ((.error (.backend ⟨"busy"⟩), started), true) := rfl
  have hhistory : History (stubborn book) settings
      (compile book.rules book.enabled .epoch).diagnostics started true :=
    (History.started rfl hstart).failed .epoch hfail
  let again := (started.simulate (.document "https://a") .epoch).2
  obtain ⟨hit, hwinner, hid⟩ : ∃ hit, started.ruleSet.evaluate (.document "https://a") = some hit ∧
      hit.id = 1 := Option.map_eq_some_iff.mp (by decide +kernel)
  obtain ⟨hit', hwinner', hid'⟩ : ∃ hit, again.ruleSet.evaluate (.document "https://b") = some hit ∧
      hit.id = 1 := Option.map_eq_some_iff.mp (by decide +kernel)
  have hanswered := (hhistory.of_winner .epoch hwinner).of_winner .epoch hwinner'
  have hlogs := (logs_eq_newest (stubborn book) settings).2 _ _ true hanswered
  refine ⟨_, true, hanswered.reachable, hlogs.trans ?_⟩
  rw [hid, hid', List.reverse_append, List.reverse_append]
  rfl

end ReplyRules.Engine
