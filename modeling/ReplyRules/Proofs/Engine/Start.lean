import ReplyRules.Proofs.Engine.Agreement
import ReplyRules.Proofs.Log.EventLog

/-!
What comes of starting an engine.  The stored book is loaded, and the backend is given the set that is
compiled from it; if either refuses, the start is refused, and no set has been taken.  Otherwise there is an
engine that publishes the book with this set, and its log keeps the newest of what was noted in compiling
(`Engine.Opened`).

A start is *all or nothing* when the backend has taken a set only if there is an engine that publishes it
(`Start.AllOrNothing`).  That is so for every start but one kind: settings that let more commands wait than
can be made to wait break it off, and they are looked at only after the backend has taken the set.  Such
settings can be read from a text (`Engine.start_brokenOff`).

Main result: `Engine.start_outcome`.
-/

namespace ReplyRules

variable {σ : Type}

/-- Whatever set the backend has taken, there is an engine that publishes it. -/
def Start.AllOrNothing (result : Start) (calls : List HostCall) : Prop :=
  ∀ ruleSet, lastInstalled calls = some ruleSet → ∃ e, result = .started e ∧ e.published.ruleSet = ruleSet

namespace Engine

variable {host : Host σ} {settings : Settings} {now : Instant} {s s₁ s₂ : σ}
variable {calls : List HostCall} {result : Start} {book : RuleBook}

/-! ### The engine of a book -/

/-- The engine is what a start makes of a book. -/
structure Opened (settings : Settings) (now : Instant) (book : RuleBook) (e : Engine) : Prop where
  published_eq : e.published = ⟨book, (compile book.rules book.enabled now).ruleSet⟩
  current_eq : e.current = e.published
  /-- The newest entries are kept, the newest first. -/
  toList_log : e.log.toList =
    (compile book.rules book.enabled now).diagnostics.reverse.take settings.logCapacity
  running_eq : e.running = true

theorem opened_ofCompilation (settings : Settings) (now : Instant) (book : RuleBook) :
    Opened settings now book
      (ofCompilation settings book (compile book.rules book.enabled now)) where
  published_eq := rfl
  current_eq := rfl
  toList_log := by
    have hkeeps := (EventLog.keeps_withCapacity settings.logCapacity).extend
      (compile book.rules book.enabled now).diagnostics
    rw [EventLog.Keeps, EventLog.capacity_extend, List.nil_append] at hkeeps
    exact hkeeps
  running_eq := rfl

/-! ### A start, by what the host says -/

theorem start_of_not_loaded {err : StoreError} (hload : host.load now s = (.error err, s₁)) :
    (start host.watched settings now).run (s, calls) =
      (.refused (.store err), s₁, calls ++ [.load (.error err)]) := by
  rw [run_start, Host.watched_load hload]

theorem start_of_not_installed {err : BackendError} (hload : host.load now s = (.ok book, s₁))
    (hinstall : host.install (compile book.rules book.enabled now).ruleSet s₁ = (.error err, s₂)) :
    (start host.watched settings now).run (s, calls) =
      (.refused (.backend err), s₂,
        calls ++ [.load (.ok book)] ++
          [.install (compile book.rules book.enabled now).ruleSet (.error err)]) := by
  rw [run_start, Host.watched_load hload]
  simp only [Host.watched_install hinstall]

/-- A buffer for no command is one for a single command, which is never too many. -/
theorem maxCommandBuffer_lt_max {n : Nat} : maxCommandBuffer < max n 1 ↔ maxCommandBuffer < n := by
  have hone : 1 ≤ maxCommandBuffer := by decide
  omega

theorem start_of_installed (hload : host.load now s = (.ok book, s₁))
    (hinstall : host.install (compile book.rules book.enabled now).ruleSet s₁ = (.ok (), s₂)) :
    (start host.watched settings now).run (s, calls) =
      (if maxCommandBuffer < settings.commandBuffer then .brokenOff
        else .started (ofCompilation settings book (compile book.rules book.enabled now)), s₂,
        calls ++ [.load (.ok book)] ++
          [.install (compile book.rules book.enabled now).ruleSet (.ok ())]) := by
  rw [run_start, Host.watched_load hload]
  simp only [Host.watched_install hinstall, maxCommandBuffer_lt_max]
  split <;> rfl

/-! ### What is left of a start -/

/-- Only a start that is broken off leaves a set behind without an engine. -/
theorem Starts.allOrNothing_iff (h : Starts settings now calls result) :
    result.AllOrNothing calls ↔ result ≠ .brokenOff := by
  cases h with
  | notLoaded err => exact iff_of_true (fun _ h => nomatch h) (fun h => nomatch h)
  | notInstalled book err => exact iff_of_true (fun _ h => nomatch h) (fun h => nomatch h)
  | brokenOff book _ =>
    refine iff_of_false (fun h => ?_) fun h => h rfl
    obtain ⟨e, he, -⟩ := h _ rfl
    cases he
  | started book _ =>
    refine iff_of_true (fun ruleSet h => ?_) fun h => nomatch h
    cases h
    exact ⟨_, rfl, rfl⟩

theorem Starts.buffer_lt (h : Starts settings now calls .brokenOff) :
    maxCommandBuffer < settings.commandBuffer := by
  cases h with
  | brokenOff book hbuffer => exact maxCommandBuffer_lt_max.mp hbuffer

/-- **What comes of a start.**  If the book is not loaded, the store's refusal is the result, and the backend
is not called.  If the set is not taken, the backend's refusal is.  Otherwise there is an engine for the
book, unless more commands are to wait than can be made to wait: then the start is broken off, and only then
the backend is left with a set without an engine. -/
theorem start_outcome (host : Host σ) (settings : Settings) (now : Instant) (s : σ) :
    let result := ((start host settings now).run s).1
    ∃ calls,
      (start host.watched settings now).run (s, []) =
        (result, ((start host settings now).run s).2, calls) ∧
      (∀ err s₁, host.load now s = (.error err, s₁) →
        result = .refused (.store err) ∧ calls = [.load (.error err)]) ∧
      (∀ book s₁ outcome s₂, host.load now s = (.ok book, s₁) →
        host.install (compile book.rules book.enabled now).ruleSet s₁ = (outcome, s₂) →
        calls = [.load (.ok book), .install (compile book.rules book.enabled now).ruleSet outcome] ∧
        match outcome with
        | .error err => result = .refused (.backend err)
        | .ok () =>
          if settings.commandBuffer ≤ maxCommandBuffer then
            ∃ e, result = .started e ∧ Opened settings now book e
          else result = .brokenOff) ∧
      (result = .brokenOff → maxCommandBuffer < settings.commandBuffer) ∧
      (result.AllOrNothing calls ↔ result ≠ .brokenOff) := by
  intro result
  obtain ⟨calls, hstarts, hwatched⟩ := start_watched host settings now s []
  rw [List.nil_append] at hwatched
  -- the run that is watched is known case by case, and has the result and the calls of the one that is not
  refine ⟨calls, hwatched, fun err s₁ hload => ?_, fun book s₁ outcome s₂ hload hinstall => ?_,
    fun hbroken => ?_, hstarts.allOrNothing_iff⟩
  · rw [start_of_not_loaded hload, Prod.mk.injEq, Prod.mk.injEq] at hwatched
    obtain ⟨hresult, -, hcalls⟩ := hwatched
    exact ⟨hresult.symm, hcalls.symm⟩
  · cases outcome with
    | error err =>
      rw [start_of_not_installed hload hinstall, Prod.mk.injEq, Prod.mk.injEq] at hwatched
      obtain ⟨hresult, -, hcalls⟩ := hwatched
      exact ⟨hcalls.symm, hresult.symm⟩
    | ok _ =>
      rw [start_of_installed hload hinstall, Prod.mk.injEq, Prod.mk.injEq] at hwatched
      obtain ⟨hresult, -, hcalls⟩ := hwatched
      refine ⟨hcalls.symm, ?_⟩
      show if _ then _ else _
      split
      case isTrue hle =>
        rw [if_neg (Nat.not_lt.mpr hle)] at hresult
        exact ⟨_, hresult.symm, opened_ofCompilation settings now book⟩
      case isFalse hgt =>
        rw [if_pos (Nat.lt_of_not_le hgt)] at hresult
        exact hresult.symm
  · have hstarts : Starts settings now calls .brokenOff := hbroken ▸ hstarts
    exact hstarts.buffer_lt

/-- A book with two rules, of which only the first one has a pattern that can be read. -/
def halfReadable : RuleBook :=
  let r : Rule := { (default : Rule) with responseContent := "x", enabled := true }
  ⟨[{ r with urlPattern := "*a*", tag := .urlFilter }, { r with urlPattern := "(", tag := .regex }], true⟩

/-- No command can wait, and of two entries only the newer one is kept; a backend that has taken a set
before refuses this one. -/
theorem start_outcome_halfReadable :
    let settings : Settings := ⟨1, 0, none⟩
    (∃ e, ((start (stubborn halfReadable) settings .epoch).run false).1 = .started e ∧
      Opened settings .epoch halfReadable e ∧ e.log.toList.map (·.action) = [.error]) ∧
    ((start (stubborn halfReadable) settings .epoch).run true).1 = .refused (.backend ⟨"busy"⟩) := by
  intro settings
  constructor
  · obtain ⟨calls, -, -, hloaded, -, -⟩ := start_outcome (stubborn halfReadable) settings .epoch false
    obtain ⟨-, hstarted⟩ := hloaded halfReadable false (.ok ()) true rfl rfl
    obtain ⟨e, hresult, hopened⟩ := (if_pos (by decide)).mp hstarted
    refine ⟨e, hresult, hopened, ?_⟩
    rw [hopened.toList_log]
    decide +kernel
  · obtain ⟨calls, -, -, hloaded, -, -⟩ := start_outcome (stubborn halfReadable) settings .epoch true
    exact (hloaded halfReadable true (.error ⟨"busy"⟩) true rfl rfl).2

/-- **A start that is not all or nothing.**  The settings are read from a text, and ask for one command more
than can be made to wait. -/
theorem start_brokenOff :
    ∃ settings calls, Settings.ofText "command_buffer = 2305843009213693952" = .ok settings ∧
      settings.commandBuffer = maxCommandBuffer + 1 ∧
      (start (stubborn halfReadable).watched settings .epoch).run (false, []) =
        (.brokenOff, true, calls) ∧
      (∃ ruleSet, lastInstalled calls = some ruleSet ∧ ruleSet.rules ≠ []) ∧
      ¬ Start.brokenOff.AllOrNothing calls := by
  let settings : Settings := ⟨500, maxCommandBuffer + 1, none⟩
  have hread : Settings.ofText "command_buffer = 2305843009213693952" = .ok settings := rfl
  have hrun : (start (stubborn halfReadable).watched settings .epoch).run (false, []) =
      (.brokenOff, true, [.load (.ok halfReadable),
        .install (compile halfReadable.rules true .epoch).ruleSet (.ok ())]) := rfl
  refine ⟨settings, _, hread, rfl, hrun, ⟨_, rfl, by decide +kernel⟩, fun h => ?_⟩
  obtain ⟨e, he, -⟩ := h _ rfl
  cases he

end Engine

end ReplyRules
