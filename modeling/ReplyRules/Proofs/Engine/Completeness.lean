import ReplyRules.Proofs.Engine.Batch
import ReplyRules.Proofs.Engine.Durability
import ReplyRules.Proofs.Matching.Numbering
import ReplyRules.Proofs.Rule.Exchange
import ReplyRules.Proofs.Rule.Validation

/-!
Complete rules stay complete.  Rules come to an engine by many ways: they are entered and validated, taken
from documents or lists and sieved, or copied from rules that are there already.  All of these ways lead to
complete rules, and what else is done to a list of rules drops some of them, or touches nothing that counts
for this; only a list that is saved whole is taken as it is (`Edit.SavesComplete`).  So a change of complete
rules gives complete rules (`Edit.isComplete_of_apply`), and an event leaves the rules of an engine complete
(`Engine.Complete.reacts`).

Main result: if the rules that an engine is started with are complete, and so are those that are saved
whole, all its rules are complete at all times; none that is switched on is passed over when they are
compiled, and none is lost when they are exported (`Engine.Run.complete_rules`).
-/

namespace ReplyRules

variable {now : Instant} {r : Rule} {rules rules' : List Rule}

/-! ### Changes -/

namespace Edit

/-- Where a list is to be saved whole, its rules are complete. -/
def SavesComplete : Edit → Prop
  | replace rules => ∀ r ∈ rules, r.isComplete = true
  | _ => True

/-- **One change.**  Complete rules stay complete, and the new ones are complete. -/
theorem isComplete_of_apply {edit : Edit} (happly : edit.apply now rules = .ok rules')
    (hsaves : edit.SavesComplete) (h : ∀ r ∈ rules, r.isComplete = true) :
    ∀ r ∈ rules', r.isComplete = true := by
  have hgives := apply_eq_ok_iff.mp happly
  cases edit with
  | replace replacement =>
    -- the only list that is not looked at
    obtain rfl := hgives
    exact hsaves
  | add input =>
    obtain ⟨r, hr, rfl⟩ := hgives
    exact List.forall_mem_append.mpr
      ⟨h, List.forall_mem_singleton.mpr (RuleInput.isComplete_of_validate hr)⟩
  | update index input =>
    obtain ⟨r, revised, -, hrevised, rfl⟩ := hgives
    intro q hq
    rcases List.mem_or_eq_of_mem_set hq with hq | rfl
    · exact h q hq
    · exact Rule.isComplete_of_revise hrevised
  | delete index =>
    obtain ⟨-, rfl⟩ := hgives
    exact fun q hq => h q (List.mem_of_mem_eraseIdx hq)
  | deleteMany indices =>
    obtain ⟨-, rfl⟩ := hgives
    rw [eraseAll_eq_without]
    exact fun q hq => h q ((withoutFrom_sublist 0 rules indices).subset hq)
  | importRules imported =>
    obtain rfl := hgives
    exact List.forall_mem_append.mpr ⟨h, fun q hq => (List.mem_filter.mp hq).2⟩
  | duplicate index =>
    obtain ⟨r, hr, rfl⟩ := hgives
    -- a copy has the pattern and the content of the rule that it is made from
    have hcopy : (r.copy now).isComplete = true := h r (List.mem_of_getElem? hr)
    exact List.forall_mem_append.mpr ⟨h, List.forall_mem_singleton.mpr hcopy⟩
  | setEnabled indices enabled =>
    obtain ⟨-, rfl⟩ := hgives
    intro q hq
    obtain ⟨place, hplace⟩ := List.mem_iff_getElem?.mp hq
    rw [getElem?_switchAll, Option.map_eq_some_iff] at hplace
    obtain ⟨q', hq', rfl⟩ := hplace
    -- the switch does not count
    have hcomplete : q'.isComplete = true := h q' (List.mem_of_getElem? hq')
    split <;> exact hcomplete

end Edit

/-- Where the command saves a list whole, its rules are complete. -/
def Command.SavesComplete : Command → Prop
  | .edit change => change.SavesComplete
  | _ => True

theorem Command.Changes.isComplete {command : Command} {before after : RuleBook}
    (hchanges : command.Changes now before after) (hsaves : command.SavesComplete)
    (h : ∀ r ∈ before.rules, r.isComplete = true) : ∀ r ∈ after.rules, r.isComplete = true := by
  cases command with
  | edit edit => exact Edit.isComplete_of_apply hchanges.1 hsaves h
  | importDocument text =>
    obtain ⟨imported, -, happly, -⟩ := hchanges
    exact Edit.isComplete_of_apply happly trivial h
  | switchTo enabled =>
    rw [hchanges.1]
    exact h

/-- Where the event saves a list whole, its rules are complete. -/
def Event.SavesComplete : Event → Prop
  | .command asked => asked.SavesComplete
  | _ => True

/-! ### Runs -/

namespace Engine

variable {σ : Type} {host : Host σ} {settings : Settings} {e e' : Engine} {s : σ} {steps : List Step}

/-- The rules that commands start from are complete. -/
def Complete (e : Engine) : Prop := ∀ r ∈ e.current.book.rules, r.isComplete = true

/-- **One step.**  What is taken over is what a command asks for. -/
theorem Complete.reacts (h : e.Complete) {event : Event} {calls : List HostCall}
    (hreacts : Reacts now e event calls e') (hsaves : event.SavesComplete) : e'.Complete := by
  cases hreacts with
  | @command command calls result hperforms =>
    cases hperforms with
    | refused _ _ => exact h
    | notStored _ _ _ => exact h
    | notInstalled _ _ _ _ _ => exact h
    | committed book hproposal =>
      have hchanges := proposal_spec now e command
      rw [hproposal] at hchanges
      exact hchanges.2.isComplete hsaves h
  | request request =>
    rw [simulate]
    split
    · exact h
    · exact h
  | clearLogs => exact h
  | stop => exact h

/-- The engine that a run has started with, where the run has come to `e` by the given steps. -/
def firstOf (steps : List Step) (e : Engine) : Engine := (steps.head?.map Step.before).getD e

theorem firstOf_concat {event : Event} {calls : List HostCall} :
    firstOf (steps ++ [⟨now, e, event, calls⟩]) e' = firstOf steps e := by
  cases steps with
  | nil => rfl
  | cons step steps => rfl

theorem Run.complete (h : Run host settings steps e s) (hfirst : (firstOf steps e).Complete)
    (hsaves : ∀ step ∈ steps, step.event.SavesComplete) : e.Complete := by
  induction h with
  | start h => exact hfirst
  | react h now event hreact ih =>
    rw [firstOf_concat] at hfirst
    rw [List.forall_mem_append, List.forall_mem_singleton] at hsaves
    exact (ih hfirst hsaves.1).reacts (react_eq_of_watched hreact).2 hsaves.2

/-- A run starts with a settled engine. -/
theorem Run.firstOf_settled (h : Run host settings steps e s) : (firstOf steps e).Settled := by
  induction h with
  | start h => exact (Reachable.start h).settled
  | react h now event hreact ih => rwa [firstOf_concat]

/-- **Rules that are complete stay complete.**  In a run that starts with complete rules and in which only
complete rules are saved whole, whatever else it is asked for and whatever fails, all rules are complete.
So where the switch is on, each rule that is switched on is registered or refused when the rules are compiled
to the set that is published; and as many rules as have been exported are read again, each as its record
tells it. -/
theorem Run.complete_rules (h : Run host settings steps e s)
    (hfirst : ∀ r ∈ (firstOf steps e).rules, r.isComplete = true)
    (hsaves : ∀ step ∈ steps, step.event.SavesComplete) :
    (∀ r ∈ e.rules, r.isComplete = true) ∧
    (e.published.book.enabled = true → ∀ previous now, previous.Sound →
      let pass := compileWith previous e.rules true now
      pass.ruleSet = e.ruleSet ∧
        ∀ before r behind, e.rules = before ++ r :: behind → r.enabled = true →
          pass.Registers now before r ∨ pass.Refuses now before r) ∧
    ∀ now, Rule.ofDocument now e.exportText = .ok (e.rules.map Rule.retold) := by
  have hsettled := h.reachable.settled
  have hcomplete : ∀ r ∈ e.rules, r.isComplete = true := by
    rw [rules, hsettled.published_eq]
    refine h.complete ?_ hsaves
    rwa [rules, h.firstOf_settled.published_eq] at hfirst
  -- the compiler and the document ask for the same as has been shown of all rules
  refine ⟨hcomplete, fun henabled previous now hp => ⟨?_, ?_⟩, fun now => ?_⟩
  · rw [ruleSet, rules, hsettled.published_eq, hsettled.ruleSet_eq now, compile,
      compileWith_ruleSet hp, compileWith_ruleSet MatcherCache.sound_empty, ← hsettled.published_eq,
      henabled]
  · intro before r behind hrules hr
    have hthrough := compileWith_through hp e.rules now
    have heligible : r.isEligible = true := by
      rw [Rule.isEligible, hr, hcomplete r (by simp [hrules]), Bool.and_self]
    rw [hrules] at hthrough ⊢
    exact hthrough.registers_or_refuses heligible
  · rw [exportText, Rule.ofDocument_exportText_eq_retold, Rule.complete,
      List.filter_eq_self.mpr hcomplete]

/-- Of two rules that are imported, one is complete; it does not compile, but it is noted down, and it is
read again from the document. -/
theorem complete_rules_of_import :
    let rule (pattern : String) (tag : PatternTag) : Rule :=
      { (default : Rule) with
        urlPattern := pattern, tag := tag, responseContent := "x", enabled := true }
    let good := rule "*" .urlFilter
    let failing := rule "(" .regex
    ∃ steps e m, Run memory .initial steps e m ∧ e.rules = [good, failing] ∧
      (compile e.rules true .epoch).Refuses .epoch [good] failing ∧
      Rule.ofDocument .epoch e.exportText = .ok [good.retold, failing.retold] := by
  intro rule good failing
  let first := ofCompilation .initial ⟨[good], true⟩ (compile [good] true .epoch)
  let event : Event := .command (.edit (.importRules [default, failing]))
  let after := (first.react memory.watched .epoch event).run (⟨⟨[good], true⟩, [], []⟩, [])
  have hstarted : (start memory .initial .epoch).run ⟨⟨[good], true⟩, [], []⟩ =
      (.started first, ⟨⟨[good], true⟩, [], []⟩) := rfl
  have hrun : Run memory .initial [⟨.epoch, first, event, after.2.2⟩] after.1 after.2.1 :=
    (Run.start hstarted).react .epoch event rfl
  have hrules : after.1.rules = [good, failing] := rfl
  have hfirst : ∀ r ∈ first.rules, r.isComplete = true := List.forall_mem_singleton.mpr (by decide)
  obtain ⟨-, hfates, hread⟩ :=
    hrun.complete_rules hfirst (List.forall_mem_singleton.mpr trivial)
  refine ⟨_, after.1, after.2.1, hrun, hrules, ?_, ?_⟩
  · rcases (hfates rfl .empty .epoch MatcherCache.sound_empty).2 [good] failing [] hrules rfl with
      ⟨m, x, hm, -⟩ | hrefuses
    · have hfails : (Matcher.compile failing.urlPattern failing.tag).toOption = none := by
        decide +kernel
      rw [hm] at hfails
      cases hfails
    · exact hrefuses
  · rw [hread, hrules]
    rfl

end Engine

end ReplyRules
