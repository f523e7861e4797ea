import ReplyRules.Proofs.Engine.Rollback

/-!
What the store holds.  Nothing is known of the store but that it keeps a book: what is loaded is the book
that was saved last, and a save that fails changes nothing (`Host.Keeps`).  The book in the store after
some calls is then the last one of them that was saved, or the one before, if none was
(`Host.Keeps.stored_react`).

A command is stored before the backend is asked, and the state before is stored again where the backend
refuses.  So that one can speak of an earlier command of a run, the steps of a run are written down, each
with its calls (`Engine.Run`).  After every step the store holds the published state, unless the backend
has refused a command and the state before could not be stored again; then it holds what that command
asked for, until something is saved (`Engine.Stranded`).

Main result: this is so in every run, and if every state could be stored again, the store holds the
published state, with which another engine can be started (`Engine.Run.stored_eq_or_stranded`).
-/

namespace ReplyRules

variable {σ : Type} {stored : σ → RuleBook}

/-! ### The book that was saved last -/

/-- The book that a call puts into the store. -/
def HostCall.saved? : HostCall → Option RuleBook
  | .save book (.ok ()) => some book
  | _ => none

/-- The book that was put into the store last. -/
def lastSaved (calls : List HostCall) : Option RuleBook := (calls.filterMap HostCall.saved?).getLast?

theorem lastSaved_concat (calls : List HostCall) (call : HostCall) :
    lastSaved (calls ++ [call]) = call.saved?.or (lastSaved calls) := by
  rw [lastSaved, List.filterMap_append, List.getLast?_append, List.filterMap_cons, List.filterMap_nil]
  cases call.saved? <;> rfl

namespace Host

/-- The store holds a book: loading gives it, saving puts another one in its place or fails and leaves
it, and the backend has nothing to do with it. -/
structure Keeps (host : Host σ) (stored : σ → RuleBook) : Prop where
  load_eq : ∀ now s, (host.load now s).1 = .ok (stored s)
  stored_load : ∀ now s, stored (host.load now s).2 = stored s
  stored_save_ok : ∀ book s, (host.save book s).1 = .ok () → stored (host.save book s).2 = book
  stored_save_error : ∀ book s err,
    (host.save book s).1 = .error err → stored (host.save book s).2 = stored s
  stored_install : ∀ ruleSet s, stored (host.install ruleSet s).2 = stored s

/-- Saving and installing leave `P` true of the state of the host. -/
structure Preserves (host : Host σ) (P : σ → Prop) : Prop where
  save : ∀ book s, P s → P (host.save book s).2
  install : ∀ ruleSet s, P s → P (host.install ruleSet s).2

variable {host : Host σ} {P : σ → Prop} {s : σ}

/-- Where the store held `first` to begin with, it holds what was saved last, or `first` still. -/
theorem Keeps.preserves (hkeeps : host.Keeps stored) (first : RuleBook) :
    host.watched.Preserves fun st => stored st.1 = (lastSaved st.2).getD first where
  save book st h := by
    show stored (host.save book st.1).2 =
      (lastSaved (st.2 ++ [.save book (host.save book st.1).1])).getD first
    rw [lastSaved_concat]
    cases hsave : (host.save book st.1).1 with
    | ok _ => exact hkeeps.stored_save_ok book st.1 hsave
    | error err => exact (hkeeps.stored_save_error book st.1 err hsave).trans h
  install ruleSet st h := by
    show stored (host.install ruleSet st.1).2 =
      (lastSaved (st.2 ++ [.install ruleSet (host.install ruleSet st.1).1])).getD first
    rw [lastSaved_concat]
    exact (hkeeps.stored_install ruleSet st.1).trans h

theorem Preserves.transition (hP : host.Preserves P) (h : P s) (now : Instant) (e : Engine)
    (book : RuleBook) : P ((e.transition host now book).run s).2 := by
  rw [Engine.run_transition]
  have hsaved := hP.save book s h
  rcases hsave : host.save book s with ⟨err | ⟨⟩, s₁⟩
  · rwa [hsave] at hsaved
  rw [hsave] at hsaved
  have hinstalled := hP.install (e.recompile now book).ruleSet s₁ hsaved
  rcases hinstall : host.install (e.recompile now book).ruleSet s₁ with ⟨err | ⟨⟩, s₂⟩
  · rw [hinstall] at hinstalled
    simp only [hinstall]
    exact hP.install e.current.ruleSet _ (hP.save e.current.book s₂ hinstalled)
  · rw [hinstall] at hinstalled
    simp only [hinstall]
    exact hinstalled

/-- What saving and installing leave true, every event leaves true. -/
theorem Preserves.react (hP : host.Preserves P) (h : P s) (now : Instant) (e : Engine)
    (event : Event) : P ((e.react host now event).run s).2 := by
  cases event with
  | command command =>
    show P ((e.perform host now command).run s).2
    rw [Engine.perform_eq]
    cases e.proposal now command with
    | error err => exact h
    | ok book => exact hP.transition h now e book
  -- nothing else leads to calls
  | request request => exact h
  | clearLogs => exact h
  | stop => exact h

/-- **One step.**  The calls of an event tell what the store holds after it. -/
theorem Keeps.stored_react (hkeeps : host.Keeps stored) {now : Instant} {e e' : Engine}
    {event : Event} {s' : σ} {calls : List HostCall}
    (h : (e.react host.watched now event).run (s, []) = (e', s', calls)) :
    stored s' = (lastSaved calls).getD (stored s) := by
  have hreact := (hkeeps.preserves (stored s)).react (s := (s, [])) rfl now e event
  rwa [h] at hreact

end Host

/-! ### Runs, step by step -/

namespace Engine

/-- A step of a run: what happened to which engine, and the calls that it led to. -/
structure Step where
  now : Instant
  before : Engine
  event : Event
  calls : List HostCall

/-- A run with the host has come to the engine, and the host to the state `s`, by the given steps. -/
inductive Run (host : Host σ) (settings : Settings) : List Step → Engine → σ → Prop
  | start {now : Instant} {e : Engine} {s₀ s : σ}
      (h : (Engine.start host settings now).run s₀ = (.started e, s)) : Run host settings [] e s
  | react {steps : List Step} {e e' : Engine} {s s' : σ} {calls : List HostCall}
      (h : Run host settings steps e s) (now : Instant) (event : Event)
      (hreact : (e.react host.watched now event).run (s, []) = (e', s', calls)) :
      Run host settings (steps ++ [⟨now, e, event, calls⟩]) e' s'

/-- The step is a command that asked for the state `book`, which was stored; the backend refused it, and
storing the state before again came to `restored`. -/
def Step.Refused (step : Step) (book : RuleBook) (restored : Except StoreError Unit) : Prop :=
  ∃ command err installed, step.event = .command command ∧
    command.Changes step.now step.before.published.book book ∧
    step.calls =
      [.save book (.ok ()), .install (compile book.rules book.enabled step.now).ruleSet (.error err),
        .save step.before.published.book restored, .install step.before.published.ruleSet installed]

/-- A command was refused that asked for the state `book`, the state before could not be stored again,
and nothing has been stored since. -/
def Stranded (steps : List Step) (book : RuleBook) : Prop :=
  ∃ before step since err, steps = before ++ step :: since ∧ step.Refused book (.error err) ∧
    ∀ later ∈ since, ∀ call ∈ later.calls, call.saved? = none

variable {host : Host σ} {settings : Settings} {now : Instant} {e e' : Engine} {s s' : σ}
  {steps : List Step} {step : Step} {book : RuleBook}

/-- An event without a host that watches is the same event. -/
theorem react_eq_of_watched {event : Event} {calls : List HostCall}
    (h : (e.react host.watched now event).run (s, []) = (e', s', calls)) :
    (e.react host now event).run s = (e', s') ∧ Reacts now e event calls e' := by
  obtain ⟨new, hreacts, hwatched⟩ := react_watched host now e event s []
  rw [h, List.nil_append] at hwatched
  obtain ⟨he, hrest⟩ := Prod.mk.inj hwatched
  obtain ⟨hs, rfl⟩ := Prod.mk.inj hrest
  rw [← he] at hreacts
  exact ⟨Prod.ext he.symm hs.symm, hreacts⟩

theorem Run.reachable (h : Run host settings steps e s) : Reachable host settings e s := by
  induction h with
  | start h => exact .start h
  | react h now event hreact ih =>
    have hreached := ih.react now event
    rwa [(react_eq_of_watched hreact).1] at hreached

/-- Whatever can be reached is reached by the steps of a run. -/
theorem Reachable.exists_run (h : Reachable host settings e s) : ∃ steps, Run host settings steps e s := by
  induction h with
  | start h => exact ⟨[], .start h⟩
  | @react e s _ now event ih =>
    obtain ⟨steps, hrun⟩ := ih
    obtain ⟨calls, -, hwatched⟩ := react_watched host now e event s []
    exact ⟨_, hrun.react now event hwatched⟩

/-- The queue of an engine that has been started is one that there can be. -/
theorem Run.commandBuffer_le (h : Run host settings steps e s) :
    max settings.commandBuffer 1 ≤ maxCommandBuffer := by
  induction h with
  | @start now e s₀ s h =>
    obtain ⟨calls, hstarts, -⟩ := start_watched host settings now s₀ []
    rw [h] at hstarts
    cases hstarts with
    | started _ hbuffer => exact hbuffer
  | react _ _ _ _ ih => exact ih

/-- A start that goes as far as the backend. -/
theorem run_start_of_load (hload : (host.load now s).1 = .ok book) :
    (start host settings now).run s =
      match host.install (compile book.rules book.enabled now).ruleSet (host.load now s).2 with
      | (.error err, s) => (.refused (.backend err), s)
      | (.ok (), s) =>
        if maxCommandBuffer < max settings.commandBuffer 1 then (.brokenOff, s)
        else (.started (ofCompilation settings book (compile book.rules book.enabled now)), s) := by
  rw [run_start]
  rcases hloaded : host.load now s with ⟨outcome, s₁⟩
  rw [hloaded] at hload
  obtain rfl : outcome = .ok book := hload
  rfl

/-! ### What the store holds in a run -/

theorem Stranded.concat (h : Stranded steps book)
    (hstep : ∀ call ∈ step.calls, call.saved? = none) : Stranded (steps ++ [step]) book := by
  obtain ⟨before, refused, since, err, rfl, hrefused, hsince⟩ := h
  refine ⟨before, refused, since ++ [step], err, by simp, hrefused, fun later hlater => ?_⟩
  rcases List.mem_append.mp hlater with hlater | hlater
  · exact hsince later hlater
  · rw [List.mem_singleton.mp hlater]
    exact hstep

/-- The store holds the state that commands start from, or what a refused command has left there. -/
def Holds (stored : σ → RuleBook) (steps : List Step) (e : Engine) (s : σ) : Prop :=
  stored s = e.current.book ∨ Stranded steps (stored s)

/-- A step that stores nothing and leaves the state as it is. -/
theorem Holds.idle (h : Holds stored steps e s) (hcurrent : e'.current = e.current)
    (hstored : stored s' = stored s) (hstep : ∀ call ∈ step.calls, call.saved? = none) :
    Holds stored (steps ++ [step]) e' s' := by
  unfold Holds
  rw [hcurrent, hstored]
  exact h.imp id fun hstranded => hstranded.concat hstep

/-- **One step.**  A state that is taken over has been stored; where the backend refuses, the state
before is stored again, or the store is left with what was asked for. -/
theorem Holds.react (hkeeps : host.Keeps stored) (hsettled : e.Settled) (h : Holds stored steps e s)
    {event : Event} {calls : List HostCall}
    (hreact : (e.react host.watched now event).run (s, []) = (e', s', calls)) :
    Holds stored (steps ++ [⟨now, e, event, calls⟩]) e' s' := by
  have hstored := hkeeps.stored_react hreact
  have hnone : ∀ call ∈ ([] : List HostCall), call.saved? = none := by simp
  cases (react_eq_of_watched hreact).2 with
  | @command command calls result hperforms =>
    cases hperforms with
    | refused err _ => exact h.idle rfl hstored hnone
    | notStored next _ err =>
      refine h.idle rfl hstored fun call hcall => ?_
      rw [List.mem_singleton.mp hcall]
      rfl
    | notInstalled next hproposal err restored installed =>
      -- the state before is stored again last, or what was asked for is
      cases restored with
      | ok _ => exact .inl hstored
      | error failure =>
        have hchanges := proposal_spec now e command
        rw [hproposal] at hchanges
        refine .inr ⟨steps, _, [], failure, rfl, ⟨command, err, installed, rfl, ?_, ?_⟩, by simp⟩
        · rw [hsettled.published_eq, hstored]
          exact hchanges.2
        · rw [hsettled.published_eq, hstored, hsettled.recompile_ruleSet]
          rfl
    | committed next _ => exact .inl hstored
  | request request =>
    refine h.idle ?_ hstored hnone
    rw [simulate]
    split <;> rfl
  | clearLogs => exact h.idle rfl hstored hnone
  | stop => exact h.idle rfl hstored hnone

theorem Run.holds (hkeeps : host.Keeps stored) (h : Run host settings steps e s) :
    Holds stored steps e s := by
  induction h with
  | @start now e s₀ s h =>
    -- the engine starts in the state that the store holds, and nothing is stored
    rw [run_start_of_load (hkeeps.load_eq now s₀)] at h
    have hinstalled :=
      hkeeps.stored_install (compile (stored s₀).rules (stored s₀).enabled now).ruleSet
        (host.load now s₀).2
    rw [hkeeps.stored_load] at hinstalled
    rcases hinstall : host.install (compile (stored s₀).rules (stored s₀).enabled now).ruleSet
      (host.load now s₀).2 with ⟨err | ⟨⟩, s₁⟩
    · rw [hinstall] at h
      cases h
    · rw [hinstall] at h hinstalled
      simp only at h
      split at h
      · cases h
      · cases h
        exact .inl hinstalled
  | react hrun now event hreact ih => exact ih.react hkeeps hrun.reachable.settled hreact

/-- A store that holds the state of a settled engine, with a backend that takes every set, starts an
engine in the same state. -/
theorem Settled.start_eq (hsettled : e.Settled) (hload : (host.load now s).1 = .ok e.published.book)
    (haccepts : ∀ ruleSet s, (host.install ruleSet s).1 = .ok ())
    (hbuffer : max settings.commandBuffer 1 ≤ maxCommandBuffer) :
    ∃ e' s', (start host settings now).run s = (.started e', s') ∧ e'.published = e.published := by
  rw [run_start_of_load hload]
  have haccept := haccepts (compile e.published.book.rules e.published.book.enabled now).ruleSet
    (host.load now s).2
  rcases hinstall : host.install
    (compile e.published.book.rules e.published.book.enabled now).ruleSet (host.load now s).2 with
    ⟨err | ⟨⟩, s₁⟩
  · rw [hinstall] at haccept
    cases haccept
  · simp only
    rw [if_neg (Nat.not_lt.mpr hbuffer)]
    refine ⟨_, s₁, rfl, ?_⟩
    show (⟨e.published.book, _⟩ : Snapshot) = e.published
    rw [hsettled.published_eq, ← hsettled.ruleSet_eq now]

/-- **The store holds what is published**, unless the backend has refused a command and the state before
could not be stored again; then the store holds what that command asked for, as long as nothing is saved.
Where the state before could be stored again every time, an engine that is started with what the store
holds, and with a backend that takes every set, has the same rules, the same switch and the same set. -/
theorem Run.stored_eq_or_stranded (hkeeps : host.Keeps stored) (h : Run host settings steps e s) :
    (stored s = e.published.book ∨ Stranded steps (stored s)) ∧
    ((∀ step ∈ steps, ∀ book restored, step.Refused book restored → restored = .ok ()) →
      stored s = e.published.book ∧
      ∀ (τ : Type) (host' : Host τ) (t : τ) (settings' : Settings) (now : Instant),
        (host'.load now t).1 = (host.load now s).1 →
        (∀ ruleSet t, (host'.install ruleSet t).1 = .ok ()) →
        (settings' = settings ∨ max settings'.commandBuffer 1 ≤ maxCommandBuffer) →
        ∃ e' t', (Engine.start host' settings' now).run t = (.started e', t') ∧
          e'.published = e.published) := by
  have hsettled := h.reachable.settled
  have hholds : stored s = e.published.book ∨ Stranded steps (stored s) := by
    rw [hsettled.published_eq]
    exact h.holds hkeeps
  refine ⟨hholds, fun hrestored => ?_⟩
  have hstored : stored s = e.published.book := by
    rcases hholds with hstored | ⟨before, step, since, err, rfl, hrefused, -⟩
    · exact hstored
    · cases hrestored step (by simp) (stored s) (.error err) hrefused
  refine ⟨hstored, fun τ host' t settings' now hload haccepts hsettings => ?_⟩
  have hbuffer : max settings'.commandBuffer 1 ≤ maxCommandBuffer := by
    rcases hsettings with rfl | hbuffer
    · exact h.commandBuffer_le
    · exact hbuffer
  refine hsettled.start_eq ?_ haccepts hbuffer
  rw [hload, hkeeps.load_eq, hstored]

/-! ### A store in memory -/

/-- A book in memory, and whether the next saves and the next installations are to be refused. -/
structure Memory where
  book : RuleBook
  refuseSaves : List Bool
  refuseInstalls : List Bool

/-- A store that keeps its book in memory, and a backend.  Both refuse what they are told to refuse, and
nothing behind that. -/
def memory : Host Memory where
  load _ := fun m => (.ok m.book, m)
  save book := fun m =>
    if m.refuseSaves.headD false then
      (.error (.unavailable "quota exceeded"), { m with refuseSaves := m.refuseSaves.tail })
    else (.ok (), { m with book := book, refuseSaves := m.refuseSaves.tail })
  install _ := fun m =>
    (if m.refuseInstalls.headD false then .error ⟨"too many rules"⟩ else .ok (),
      { m with refuseInstalls := m.refuseInstalls.tail })

theorem memory_keeps : memory.Keeps Memory.book where
  load_eq _ _ := rfl
  stored_load _ _ := rfl
  stored_save_ok book m h := by
    simp only [memory] at h ⊢
    split at h
    · cases h
    · rename_i hsave
      rw [if_neg hsave]
  stored_save_error book m err h := by
    simp only [memory] at h ⊢
    split at h
    · rename_i hsave
      rw [if_pos hsave]
    · cases h
  stored_install _ _ := rfl

/-- The switch is moved, and the backend refuses the set of no rules.  Where the store does not take the state
before, it is left with the one that was asked for; where it does, another engine starts in the state before,
with the set of the rule. -/
theorem memory_stranded_or_restored :
    let e := ofCompilation .initial oneRule (compile oneRule.rules oneRule.enabled .epoch)
    e.published.ruleSet ≠ .empty ∧
    (∃ steps, Run memory .initial steps e ⟨⟨oneRule.rules, false⟩, [], []⟩ ∧
      Stranded steps ⟨oneRule.rules, false⟩) ∧
    (∃ steps, Run memory .initial steps e ⟨oneRule, [], []⟩ ∧
      ∃ e' m, (start { memory with install := fun _ => pure (.ok ()) } .initial .epoch).run
          ⟨oneRule, [], []⟩ = (.started e', m) ∧ e'.published = e.published) := by
  intro e
  let calls (restored : Except StoreError Unit) : List HostCall :=
    [.save ⟨oneRule.rules, false⟩ (.ok ()), .install .empty (.error ⟨"too many rules"⟩),
      .save oneRule restored, .install e.published.ruleSet (.ok ())]
  have hstart (saves : List Bool) : Run memory .initial [] e ⟨oneRule, saves, [true]⟩ :=
    have hstarted : (start memory .initial .epoch).run ⟨oneRule, saves, [false, true]⟩ =
      (.started e, ⟨oneRule, saves, [true]⟩) := rfl
    .start hstarted
  refine ⟨compile_oneRule_ne_empty, ?_, ?_⟩
  · have hrun : Run memory .initial
        [⟨.epoch, e, .command (.switchTo false), calls (.error (.unavailable "quota exceeded"))⟩] e
        ⟨⟨oneRule.rules, false⟩, [], []⟩ :=
      (hstart [false, true]).react .epoch (.command (.switchTo false)) rfl
    exact ⟨_, hrun, (hrun.stored_eq_or_stranded memory_keeps).1.resolve_left (by decide)⟩
  · have hrun : Run memory .initial [⟨.epoch, e, .command (.switchTo false), calls (.ok ())⟩] e
        ⟨oneRule, [], []⟩ :=
      (hstart []).react .epoch (.command (.switchTo false)) rfl
    have hrestored := (hrun.stored_eq_or_stranded memory_keeps).2 fun step hstep book restored => by
      rintro ⟨command, err, installed, -, -, hcalls⟩
      rw [List.mem_singleton.mp hstep] at hcalls
      cases hcalls
      rfl
    exact ⟨_, hrun, hrestored.2 Memory _ ⟨oneRule, [], []⟩ .initial .epoch rfl
      (fun _ _ => rfl) (.inl rfl)⟩

end Engine

end ReplyRules
