import ReplyRules.Proofs.Engine.Run

/-!
All that an engine keeps agrees.  The set of rules that the backend has taken last is read off the calls
of a run (`lastInstalled`).  A start and a command that is carried out end with installing the set that
is published; a command that is refused by the backend ends with installing the set before, and if that
is refused too, the backend still has that set, for it has taken none since
(`Engine.lastInstalled_of_reacts`).

Main result: in every run, the published state, the state that commands start from, the matchers in the
cache and the set that the backend has taken last belong together (`Engine.Reachable.agrees`).
-/

namespace ReplyRules

variable {σ : Type}

/-! ### What the backend has taken -/

/-- The set of rules that a call gives to the backend, if the backend takes it. -/
def HostCall.installed? : HostCall → Option RuleSet
  | .install ruleSet (.ok ()) => some ruleSet
  | _ => none

/-- The set of rules that the backend has taken last. -/
def lastInstalled (calls : List HostCall) : Option RuleSet :=
  (calls.filterMap HostCall.installed?).getLast?

/-- Later calls go before earlier ones. -/
theorem lastInstalled_append (calls new : List HostCall) :
    lastInstalled (calls ++ new) = (lastInstalled new).or (lastInstalled calls) := by
  rw [lastInstalled, List.filterMap_append, List.getLast?_append]
  rfl

namespace Engine

variable {host : Host σ} {settings : Settings} {now : Instant} {e e' : Engine} {s : σ}
  {calls new : List HostCall}

/-- Every run with a host is a run with the host while it is watched. -/
theorem Reachable.exists_watched (h : Reachable host settings e s) :
    ∃ calls, Reachable host.watched settings e (s, calls) := by
  induction h with
  | @start now e s₀ s h =>
    obtain ⟨calls, -, hwatched⟩ := start_watched host settings now s₀ []
    rw [h] at hwatched
    exact ⟨[] ++ calls, .start hwatched⟩
  | @react e s _ now event ih =>
    obtain ⟨calls, hcalls⟩ := ih
    obtain ⟨new, -, hwatched⟩ := react_watched host now e event s calls
    have hreact := hcalls.react now event
    rw [hwatched] at hreact
    exact ⟨calls ++ new, hreact⟩

theorem lastInstalled_of_starts (h : Starts settings now new (.started e)) :
    lastInstalled (calls ++ new) = some e.current.ruleSet := by
  cases h with
  | started book _ =>
    rw [lastInstalled_append]
    rfl

/-- **One step.**  What the backend has taken last stays the set of the state that commands start
from. -/
theorem lastInstalled_of_reacts {event : Event} (hreacts : Reacts now e event new e')
    (h : lastInstalled calls = some e.current.ruleSet) :
    lastInstalled (calls ++ new) = some e'.current.ruleSet := by
  rw [lastInstalled_append, h]
  cases hreacts with
  | command hperforms =>
    cases hperforms with
    | refused _ _ => rfl
    | notStored _ _ _ => rfl
    | notInstalled _ _ _ _ installed =>
      -- the set before is installed again, or has never been replaced
      cases installed with
      | ok _ => rfl
      | error _ => rfl
    | committed _ _ => rfl
  | request request =>
    rw [simulate]
    split <;> rfl
  | clearLogs => rfl
  | stop => rfl

theorem Reachable.lastInstalled_eq {st : σ × List HostCall}
    (h : Reachable host.watched settings e st) : lastInstalled st.2 = some e.current.ruleSet := by
  induction h with
  | @start now e st₀ st h =>
    obtain ⟨s₀, calls⟩ := st₀
    obtain ⟨new, hstarts, hwatched⟩ := start_watched host settings now s₀ calls
    rw [h] at hwatched
    obtain ⟨hstart, rfl⟩ := Prod.mk.inj hwatched
    rw [← hstart] at hstarts
    exact lastInstalled_of_starts hstarts
  | @react e st _ now event ih =>
    obtain ⟨s, calls⟩ := st
    obtain ⟨new, hreacts, hwatched⟩ := react_watched host now e event s calls
    rw [hwatched]
    exact lastInstalled_of_reacts hreacts ih

/-! ### Agreement -/

/-- **All that an engine keeps agrees.**  The published state is the one that commands start from; its
set is the one that is compiled from scratch, so it is empty and nothing is answered while the switch is
off; the cache holds the matchers of this set and no others; and this set is the one that the backend has
taken last. -/
theorem Reachable.agrees (h : Reachable host.watched settings e (s, calls)) :
    e.published = e.current ∧
    (∀ now, e.published.ruleSet =
      (compile e.published.book.rules e.published.book.enabled now).ruleSet) ∧
    (e.published.book.enabled = false →
      e.published.ruleSet = .empty ∧ ∀ request now, e.simulate request now = (none, e)) ∧
    (e.cache.Sound ∧ ∀ key, key ∈ e.cache.keys ↔ key ∈ e.published.ruleSet.keys) ∧
    lastInstalled calls = some e.published.ruleSet := by
  have hsettled := h.settled
  have hcompile : ∀ now, e.published.ruleSet =
      (compile e.published.book.rules e.published.book.enabled now).ruleSet := by
    rw [hsettled.published_eq]
    exact hsettled.ruleSet_eq
  refine ⟨hsettled.published_eq, hcompile, fun hoff => ?_, ⟨hsettled.sound, ?_⟩, ?_⟩
  · have hempty : e.published.ruleSet = .empty := by
      rw [hcompile .epoch, hoff]
      rfl
    refine ⟨hempty, fun request now => ?_⟩
    rw [simulate, ruleSet, hempty]
    rfl
  · rw [hsettled.published_eq]
    exact hsettled.mem_keys
  · rw [hsettled.published_eq]
    exact h.lastInstalled_eq

/-- A backend that refuses the set of no rules, and the set of a rule as well, still has the set of the rule,
and the cache has its matcher. -/
theorem stubborn_keeps_first_set :
    let e := ofCompilation .initial oneRule (compile oneRule.rules oneRule.enabled .epoch)
    ∃ calls, Reachable (stubborn oneRule).watched .initial e (true, calls) ∧
      e.published.ruleSet ≠ .empty ∧
      .install .empty (.error ⟨"busy"⟩) ∈ calls ∧
      .install e.published.ruleSet (.error ⟨"busy"⟩) ∈ calls ∧
      lastInstalled calls = some e.published.ruleSet ∧
      (.urlFilter, "*a*") ∈ e.cache.keys := by
  intro e
  obtain ⟨calls, hstarted⟩ := (reachable_stubborn oneRule .epoch).exists_watched
  have hswitched := hstarted.react .epoch (.command (.switchTo false))
  have hreact : (e.react (stubborn oneRule).watched .epoch (.command (.switchTo false))).run (true, calls) =
      (e, true, calls ++ [.save ⟨oneRule.rules, false⟩ (.ok ())] ++
        [.install .empty (.error ⟨"busy"⟩)] ++ [.save oneRule (.ok ())] ++
        [.install e.published.ruleSet (.error ⟨"busy"⟩)]) := rfl
  rw [show ofCompilation .initial oneRule (compile oneRule.rules oneRule.enabled .epoch) = e from rfl,
    hreact] at hswitched
  obtain ⟨-, -, -, ⟨-, hkeys⟩, hlast⟩ := hswitched.agrees
  refine ⟨_, hswitched, compile_oneRule_ne_empty, by simp, by simp, hlast, (hkeys _).mpr ?_⟩
  show _ ∈ (compile oneRule.rules oneRule.enabled .epoch).ruleSet.keys
  rw [keys_compile_oneRule]
  exact List.mem_cons_self

end Engine

end ReplyRules
