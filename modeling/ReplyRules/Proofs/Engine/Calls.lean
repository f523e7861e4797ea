import ReplyRules.Engine.Basic

/-!
The calls that an engine makes to its store and its backend.  A host is watched by another host that does
the same and writes down every call with what came of it (`Host.watched`); so nothing has to be known of
the host itself, which may refuse whatever and whenever it likes.

What starting an engine and carrying out a command come to is said once, in full: the calls made, the
result, and the engine afterwards, with one case for each place where something can be refused (`Starts`,
`Performs`).  All that is proved of engines goes by these cases.

Main results: starting an engine and carrying out a command are always among these cases, and watching
the host changes neither (`start_watched`, `perform_watched`).
-/

namespace ReplyRules

variable {σ : Type}

/-! ### Watched hosts -/

/-- A call to a host, with what came of it. -/
inductive HostCall where
  | load (outcome : Except StoreError RuleBook)
  | save (book : RuleBook) (outcome : Except StoreError Unit)
  | install (ruleSet : RuleSet) (outcome : Except BackendError Unit)

/-- The host that does the same, and writes down the calls in their order. -/
def Host.watched (host : Host σ) : Host (σ × List HostCall) where
  load now := fun (s, calls) =>
    let (outcome, s') := host.load now s
    (outcome, s', calls ++ [.load outcome])
  save book := fun (s, calls) =>
    let (outcome, s') := host.save book s
    (outcome, s', calls ++ [.save book outcome])
  install ruleSet := fun (s, calls) =>
    let (outcome, s') := host.install ruleSet s
    (outcome, s', calls ++ [.install ruleSet outcome])

namespace Host

variable {host : Host σ} {s s' : σ} {calls : List HostCall}

theorem watched_load {now : Instant} {outcome : Except StoreError RuleBook}
    (h : host.load now s = (outcome, s')) :
    host.watched.load now (s, calls) = (outcome, s', calls ++ [.load outcome]) := by
  simp only [watched, h]

theorem watched_save {book : RuleBook} {outcome : Except StoreError Unit}
    (h : host.save book s = (outcome, s')) :
    host.watched.save book (s, calls) = (outcome, s', calls ++ [.save book outcome]) := by
  simp only [watched, h]

theorem watched_install {ruleSet : RuleSet} {outcome : Except BackendError Unit}
    (h : host.install ruleSet s = (outcome, s')) :
    host.watched.install ruleSet (s, calls) = (outcome, s', calls ++ [.install ruleSet outcome]) := by
  simp only [watched, h]

end Host

/-! ### What can come of a start -/

namespace Engine

/-- The calls of a start, and what comes of them. -/
inductive Starts (settings : Settings) (now : Instant) : List HostCall → Start → Prop
  | notLoaded (err : StoreError) :
      Starts settings now [.load (.error err)] (.refused (.store err))
  | notInstalled (book : RuleBook) (err : BackendError) :
      Starts settings now
        [.load (.ok book), .install (compile book.rules book.enabled now).ruleSet (.error err)]
        (.refused (.backend err))
  | brokenOff (book : RuleBook) (h : maxCommandBuffer < max settings.commandBuffer 1) :
      Starts settings now
        [.load (.ok book), .install (compile book.rules book.enabled now).ruleSet (.ok ())]
        .brokenOff
  | started (book : RuleBook) (h : max settings.commandBuffer 1 ≤ maxCommandBuffer) :
      Starts settings now
        [.load (.ok book), .install (compile book.rules book.enabled now).ruleSet (.ok ())]
        (.started (ofCompilation settings book (compile book.rules book.enabled now)))

/-- A start, call by call. -/
theorem run_start (host : Host σ) (settings : Settings) (now : Instant) (s : σ) :
    (start host settings now).run s =
      match host.load now s with
      | (.error err, s) => (.refused (.store err), s)
      | (.ok book, s) =>
        match host.install (compile book.rules book.enabled now).ruleSet s with
        | (.error err, s) => (.refused (.backend err), s)
        | (.ok (), s) =>
          if maxCommandBuffer < max settings.commandBuffer 1 then (.brokenOff, s)
          else (.started (ofCompilation settings book (compile book.rules book.enabled now)), s) := by
  simp only [start, StateT.run, bind, StateT.bind]
  rcases host.load now s with ⟨err | book, s₁⟩
  · rfl
  · show StateT.bind (host.install _) _ s₁ = _
    simp only [StateT.bind, bind]
    rcases host.install (compile book.rules book.enabled now).ruleSet s₁ with ⟨err | ⟨⟩, s₂⟩
    · rfl
    · show (if _ then _ else _ : StateM σ Start) s₂ = if _ then _ else _
      split <;> rfl

/-- **What a start does.** -/
theorem start_watched (host : Host σ) (settings : Settings) (now : Instant) (s : σ)
    (calls : List HostCall) :
    ∃ new, Starts settings now new ((start host settings now).run s).1 ∧
      (start host.watched settings now).run (s, calls) =
        (((start host settings now).run s).1, ((start host settings now).run s).2, calls ++ new) := by
  rw [run_start, run_start]
  rcases hload : host.load now s with ⟨err | book, s₁⟩
  · rw [Host.watched_load hload]
    exact ⟨_, .notLoaded err, rfl⟩
  rw [Host.watched_load hload]
  rcases hinstall : host.install (compile book.rules book.enabled now).ruleSet s₁ with
    ⟨err | ⟨⟩, s₂⟩
  · simp only [hinstall, Host.watched_install hinstall, List.append_assoc]
    exact ⟨_, .notInstalled book err, rfl⟩
  · simp only [hinstall, Host.watched_install hinstall, List.append_assoc]
    split
    · next h => exact ⟨_, .brokenOff book h, rfl⟩
    · next h => exact ⟨_, .started book (Nat.le_of_not_lt h), rfl⟩

/-! ### What can come of a command -/

/-- The state that a command asks for, if it gets as far as that. -/
def proposal (now : Instant) (e : Engine) (command : Command) : Except EngineError RuleBook := do
  e.receive now command
  e.target now command

/-- The compilation of a state, with the matchers of an engine. -/
def recompile (now : Instant) (e : Engine) (book : RuleBook) : Compilation :=
  compileWith e.cache book.rules book.enabled now

/-- The calls of a command to an engine, the result, and the engine afterwards. -/
inductive Performs (now : Instant) (e : Engine) (command : Command) :
    List HostCall → Except EngineError Unit × Engine → Prop
  | refused (err : EngineError) (h : e.proposal now command = .error err) :
      Performs now e command [] (.error err, e)
  | notStored (book : RuleBook) (h : e.proposal now command = .ok book) (err : StoreError) :
      Performs now e command [.save book (.error err)] (.error (.store err), e)
  | notInstalled (book : RuleBook) (h : e.proposal now command = .ok book) (err : BackendError)
      (stored : Except StoreError Unit) (installed : Except BackendError Unit) :
      Performs now e command
        [.save book (.ok ()), .install (e.recompile now book).ruleSet (.error err),
          .save e.current.book stored, .install e.current.ruleSet installed]
        (.error (.backend err), e)
  | committed (book : RuleBook) (h : e.proposal now command = .ok book) :
      Performs now e command
        [.save book (.ok ()), .install (e.recompile now book).ruleSet (.ok ())]
        (.ok (), e.commit book (e.recompile now book))

/-- A change of state, call by call. -/
theorem run_transition (host : Host σ) (now : Instant) (e : Engine) (book : RuleBook) (s : σ) :
    (e.transition host now book).run s =
      match host.save book s with
      | (.error err, s) => ((.error (.store err), e), s)
      | (.ok (), s) =>
        match host.install (e.recompile now book).ruleSet s with
        | (.error err, s) =>
          ((.error (.backend err), e),
            (host.install e.current.ruleSet (host.save e.current.book s).2).2)
        | (.ok (), s) => ((.ok (), e.commit book (e.recompile now book)), s) := by
  simp only [transition, StateT.run, bind, StateT.bind]
  rcases host.save book s with ⟨err | ⟨⟩, s₁⟩
  · rfl
  · show StateT.bind (host.install (e.recompile now book).ruleSet) _ s₁ = _
    simp only [StateT.bind, bind]
    rcases host.install (e.recompile now book).ruleSet s₁ with ⟨err | ⟨⟩, s₂⟩ <;> rfl

/-- A command is refused before any call, or changes the state to the one that it asks for. -/
theorem perform_eq (host : Host σ) (now : Instant) (e : Engine) (command : Command) :
    e.perform host now command =
      match e.proposal now command with
      | .error err => pure (.error err, e)
      | .ok book => e.transition host now book := by
  rw [perform, proposal]
  cases e.receive now command with
  | error err => rfl
  | ok _ =>
    show (match e.target now command with
      | .error err => pure (.error err, e)
      | .ok book => e.transition host now book : StateM σ (Except EngineError Unit × Engine)) = _
    cases e.target now command <;> rfl

/-- **What a command does.** -/
theorem perform_watched (host : Host σ) (now : Instant) (e : Engine) (command : Command) (s : σ)
    (calls : List HostCall) :
    ∃ new, Performs now e command new ((e.perform host now command).run s).1 ∧
      (e.perform host.watched now command).run (s, calls) =
        (((e.perform host now command).run s).1, ((e.perform host now command).run s).2,
          calls ++ new) := by
  rw [perform_eq, perform_eq]
  cases hproposal : e.proposal now command with
  | error err => exact ⟨[], .refused err hproposal, by rw [List.append_nil]; rfl⟩
  | ok book =>
    simp only [run_transition]
    rcases hsave : host.save book s with ⟨err | ⟨⟩, s₁⟩
    · rw [Host.watched_save hsave]
      exact ⟨_, .notStored book hproposal err, rfl⟩
    rw [Host.watched_save hsave]
    rcases hinstall : host.install (e.recompile now book).ruleSet s₁ with ⟨err | ⟨⟩, s₂⟩
    · -- what comes of storing and installing the state before is not looked at
      rcases hstored : host.save e.current.book s₂ with ⟨stored, s₃⟩
      rcases hinstalled : host.install e.current.ruleSet s₃ with ⟨installed, s₄⟩
      simp only [hinstall, Host.watched_install hinstall, hstored, Host.watched_save hstored,
        hinstalled, Host.watched_install hinstalled, List.append_assoc]
      exact ⟨_, .notInstalled book hproposal err stored installed, rfl⟩
    · simp only [hinstall, Host.watched_install hinstall, List.append_assoc]
      exact ⟨_, .committed book hproposal, rfl⟩

end Engine

end ReplyRules
