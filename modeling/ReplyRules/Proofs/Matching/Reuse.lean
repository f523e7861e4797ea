import ReplyRules.Proofs.Matching.Survivors
import Mathlib.Data.Finset.Card
import Mathlib.Data.Finset.Dedup
import Mathlib.Data.Finset.Filter

/-!
Matchers that are used again.  The rules change and are compiled again and again, each time with the
cache that the time before has left (`MatcherCache.Obtained`).  Every such cache is sound, so what is
compiled with it is what is compiled from scratch.

What can be seen of a cache is how many matchers had to be compiled.  A look-up compiles a pattern only
if its key is neither in use nor among the previous ones, so the counter goes up by one exactly where a
new key comes into use (`MatcherCache.length_newKeys_of_resolve`).  Rule by rule, the counter is then the
number of the keys in use that the previous cache did not have.

Main result: with every cache that can be obtained, a list of rules gives the same set, the same answers
and the same entries for the log as without one; the new cache holds the matchers of this set and no
others; and the counter is the number of its keys that are new
(`MatcherCache.Obtained.compileWith_eq_compile`).
-/

namespace ReplyRules

variable {previous next : MatcherCache} {pattern : String} {tag : PatternTag} {now : Instant}
  {rules : List Rule} {enabled : Bool}

/-- The entry without its time. -/
def LogEntry.untimed (e : LogEntry) : LogEntry := { e with timestamp := .epoch }

/-! ### Caches that can be obtained -/

/-- The caches that compilations leave behind, the first of which has no matchers to begin with. -/
inductive MatcherCache.Obtained : MatcherCache → Prop
  | empty : Obtained .empty
  | pass {c : MatcherCache} (h : Obtained c) (rules : List Rule) (enabled : Bool) (now : Instant) :
      Obtained (compileWith c rules enabled now).cache

theorem MatcherCache.Obtained.sound (h : previous.Obtained) : previous.Sound := by
  induction h with
  | empty => exact sound_empty
  | pass _ rules enabled now ih => exact (compileWith_cache ih rules enabled now).1

/-! ### What is noted down -/

namespace Rule

theorem map_untimed_diagnosticsFrom (now now' : Instant) (n : Nat) (rules : List Rule) :
    (diagnosticsFrom now n rules).map LogEntry.untimed =
      (diagnosticsFrom now' n rules).map LogEntry.untimed := by
  induction rules generalizing n with
  | nil => rfl
  | cons r rules ih =>
    have hr : (r.diagnostic now n).map LogEntry.untimed =
        (r.diagnostic now' n).map LogEntry.untimed := by
      unfold diagnostic
      rcases r.fate with hr | ⟨hr, m, hm⟩ | ⟨hr, e, he⟩
      · rw [hr]
        rfl
      · rw [hr, hm]
        rfl
      · rw [hr, he]
        rfl
    rw [diagnosticsFrom, diagnosticsFrom, List.map_append, List.map_append, hr, ih]

/-- The keys of the rules that are compiled. -/
theorem keys_ofRules (rules : List Rule) :
    (RuleSet.ofRules rules).keys = (survivors rules).map fun s => (s.1.tag, s.1.urlPattern) := by
  have aux (n : Nat) (kept : List (Rule × Matcher)) (h : ∀ s ∈ kept, s.1.survivor? = some s) :
      (numberedFrom n kept).map (fun r => (r.matcher.tag, r.matcher.pattern)) =
        kept.map fun s => (s.1.tag, s.1.urlPattern) := by
    induction kept generalizing n with
    | nil => rfl
    | cons s kept ih =>
      obtain ⟨-, hm, -⟩ := survivor?_eq_some.mp (h s List.mem_cons_self)
      have hkey : (s.2.tag, s.2.pattern) = (s.1.tag, s.1.urlPattern) := Matcher.key_of_compile hm
      rw [numberedFrom, List.map_cons, List.map_cons,
        ih (n + 1) fun s' hs' => h s' (List.mem_cons_of_mem s hs')]
      exact congrArg (· :: _) hkey
  refine aux 0 (survivors rules) fun s hs => ?_
  obtain ⟨r, -, hs⟩ := List.mem_filterMap.mp hs
  obtain rfl := (survivor?_eq_some.mp hs).2.2
  exact hs

/-- A key is that of a compiled rule when it is the key of a rule that is switched on and complete, and
its pattern compiles. -/
theorem mem_keys_ofRules {key : PatternTag × String} :
    key ∈ (RuleSet.ofRules rules).keys ↔
      ∃ r ∈ rules, r.isEligible = true ∧ (r.tag, r.urlPattern) = key ∧
        ∃ m, Matcher.compile r.urlPattern r.tag = .ok m := by
  rw [keys_ofRules, List.mem_map]
  constructor
  · rintro ⟨s, hs, rfl⟩
    obtain ⟨r, hr, hs⟩ := List.mem_filterMap.mp hs
    obtain ⟨heligible, hm, rfl⟩ := survivor?_eq_some.mp hs
    exact ⟨s.1, hr, heligible, rfl, s.2, hm⟩
  · rintro ⟨r, hr, heligible, rfl, m, hm⟩
    exact ⟨(r, m), List.mem_filterMap.mpr ⟨r, hr, survivor?_eq_some.mpr ⟨heligible, hm, rfl⟩⟩, rfl⟩

end Rule

/-! ### What is compiled anew -/

namespace MatcherCache

/-- The keys of a cache that a previous one does not have. -/
def newKeys (previous c : MatcherCache) : List (PatternTag × String) :=
  c.keys.filter (· ∉ previous.keys)

/-- A matcher is compiled exactly where a key comes into use that is new. -/
theorem length_newKeys_of_resolve {resolved : Resolved}
    (h : previous.resolve pattern tag next = .ok resolved) :
    (newKeys previous resolved.next).length =
      (newKeys previous next).length + if resolved.fresh then 1 else 0 := by
  unfold resolve at h
  cases hnext : next.find? pattern tag with
  | some m =>
    -- in use already
    rw [hnext] at h
    obtain rfl := Except.ok.inj h
    rfl
  | none =>
    rw [hnext] at h
    cases hprevious : previous.find? pattern tag with
    | some m =>
      -- taken over: its key comes into use, but is not new
      rw [hprevious] at h
      obtain rfl := Except.ok.inj h
      have hkey : (tag, pattern) ∈ previous.keys := mem_keys_of_find? hprevious
      show ((next.insert pattern tag m).keys.filter (· ∉ previous.keys)).length = _
      rw [keys_insert, List.filter_cons_of_neg (by simpa using hkey)]
      rfl
    | none =>
      rw [hprevious] at h
      have hkey : (tag, pattern) ∉ previous.keys := find?_eq_none.mp hprevious
      cases hm : Matcher.compile pattern tag with
      | error e =>
        rw [hm] at h
        cases h
      | ok m =>
        rw [hm] at h
        obtain rfl := Except.ok.inj h
        show ((next.insert pattern tag m).keys.filter (· ∉ previous.keys)).length = _
        rw [keys_insert, List.filter_cons_of_pos (by simpa using hkey)]
        rfl

end MatcherCache

namespace Compilation

variable {c : Compilation}

/-- The counter says how many keys are new. -/
def CountsNewKeys (previous : MatcherCache) (c : Compilation) : Prop :=
  c.freshMatchers = (previous.newKeys c.cache).length

/-- **One more rule.**  The counter follows the keys in use. -/
theorem CountsNewKeys.visit (h : c.CountsNewKeys previous) (r : Rule) :
    (c.visit previous now r).CountsNewKeys previous := by
  unfold Compilation.visit addRule
  split
  · cases hresolve : previous.resolve r.urlPattern r.tag c.cache with
    | ok resolved =>
      show c.freshMatchers + _ = _
      rw [h, ← MatcherCache.length_newKeys_of_resolve hresolve]
    | error e => exact h
  · exact h

theorem CountsNewKeys.foldl_visit (h : c.CountsNewKeys previous) (rules : List Rule) :
    (rules.foldl (Compilation.visit previous now) c).CountsNewKeys previous := by
  induction rules generalizing c with
  | nil => exact h
  | cons r rules ih => exact ih (h.visit r)

theorem countsNewKeys_compileWith (previous : MatcherCache) (rules : List Rule) (enabled : Bool)
    (now : Instant) : (compileWith previous rules enabled now).CountsNewKeys previous := by
  cases enabled with
  | false => rfl
  | true =>
    rw [compileWith_eq_foldl]
    have hempty : CountsNewKeys previous .empty := rfl
    exact hempty.foldl_visit rules

end Compilation

/-! ### Nothing but the counter tells of the cache -/

namespace MatcherCache

theorem find?_eq_some_iff {c : MatcherCache} {m : Matcher} (hc : c.Sound) :
    c.find? pattern tag = some m ↔
      (tag, pattern) ∈ c.keys ∧ Matcher.compile pattern tag = .ok m := by
  constructor
  · intro h
    exact ⟨mem_keys_of_find? h, hc.compile_eq h⟩
  · rintro ⟨hkey, hm⟩
    cases h : c.find? pattern tag with
    | none => exact absurd hkey (find?_eq_none.mp h)
    | some m' => rw [Except.ok.inj ((hc.compile_eq h).symm.trans hm)]

/-- **The cache is not observable.**  With a cache that compilations have left, a list of rules is
compiled to the same set, which gives the same answers, and the same is noted down, up to the times.  The
new cache holds under each key what the key compiles to; its keys, none of them twice, are those of the
rules in the new set, which are switched on, complete and compile.  The counter is the number of these
keys that the previous cache did not have. -/
theorem Obtained.compileWith_eq_compile (h : previous.Obtained) (rules : List Rule) (enabled : Bool)
    (now now' : Instant) :
    let c := compileWith previous rules enabled now
    let scratch := compile rules enabled now'
    c.ruleSet = scratch.ruleSet ∧
    (∀ request, c.ruleSet.evaluate request = scratch.ruleSet.evaluate request ∧
      c.ruleSet.explain request = scratch.ruleSet.explain request) ∧
    c.diagnostics.map LogEntry.untimed = scratch.diagnostics.map LogEntry.untimed ∧
    (∀ pattern tag m, c.cache.find? pattern tag = some m ↔
      (tag, pattern) ∈ c.ruleSet.keys ∧ Matcher.compile pattern tag = .ok m) ∧
    c.cache.keys.Nodup ∧ c.cache.keys.toFinset = c.ruleSet.keys.toFinset ∧
    (∀ key, key ∈ c.cache.keys ↔ enabled = true ∧ ∃ r ∈ rules, r.isEligible = true ∧
      (r.tag, r.urlPattern) = key ∧ ∃ m, Matcher.compile r.urlPattern r.tag = .ok m) ∧
    c.freshMatchers = (c.ruleSet.keys.toFinset \ previous.keys.toFinset).card := by
  intro c scratch
  have hp := h.sound
  obtain ⟨hsound, hkeys⟩ : c.cache.Sound ∧ ∀ key, key ∈ c.cache.keys ↔ key ∈ c.ruleSet.keys :=
    compileWith_cache hp rules enabled now
  have hruleSet : c.ruleSet = scratch.ruleSet := by
    show (compileWith previous rules enabled now).ruleSet = (compileWith .empty rules enabled now').ruleSet
    rw [compileWith_ruleSet hp, compileWith_ruleSet sound_empty]
  have hfinset : c.cache.keys.toFinset = c.ruleSet.keys.toFinset := by
    ext key
    rw [List.mem_toFinset, List.mem_toFinset, hkeys]
  refine ⟨hruleSet, fun request => ?_, ?_, fun pattern tag m => ?_, hsound.nodup, hfinset,
    fun key => ?_, ?_⟩
  · rw [hruleSet]
    exact ⟨rfl, rfl⟩
  · show (compileWith previous rules enabled now).diagnostics.map _ =
      (compileWith .empty rules enabled now').diagnostics.map _
    cases enabled with
    | false => rfl
    | true =>
      rw [(compileWith_through hp rules now).diagnostics_eq,
        (compileWith_through sound_empty rules now').diagnostics_eq]
      exact Rule.map_untimed_diagnosticsFrom now now' 0 rules
  · rw [find?_eq_some_iff hsound, hkeys]
  · rw [hkeys, show c.ruleSet = _ from compileWith_ruleSet hp rules enabled now]
    cases enabled with
    | false => simp [RuleSet.keys, RuleSet.empty]
    | true => simp only [if_true, true_and, Rule.mem_keys_ofRules]
  · rw [show c.freshMatchers = _ from
        Compilation.countsNewKeys_compileWith previous rules enabled now,
      ← hfinset, newKeys, ← List.toFinset_card_of_nodup (hsound.nodup.filter _), List.toFinset_filter]
    congr 1
    ext key
    simp

/-- Where one filter stays, one goes and one comes twice, one matcher is compiled and two are kept. -/
theorem compileWith_previous_filters :
    let filter (pattern : String) : Rule :=
      { (default : Rule) with
        urlPattern := pattern, tag := .urlFilter, responseContent := "x", enabled := true }
    let previous := (compile [filter "*", filter "a*"] true .epoch).cache
    let c := compileWith previous [filter "*", filter "b*", filter "b*"] true .epoch
    previous.Obtained ∧ c.freshMatchers = 1 ∧ c.cache.find? "a*" .urlFilter = none ∧
      c.cache.keys.toFinset = {(.urlFilter, "*"), (.urlFilter, "b*")} := by
  intro filter previous c
  have hprevious : previous.Obtained := Obtained.empty.pass _ true .epoch
  obtain ⟨-, -, -, -, -, hkeys, -, hfresh⟩ :=
    hprevious.compileWith_eq_compile [filter "*", filter "b*", filter "b*"] true .epoch .epoch
  have hset : c.ruleSet.keys.toFinset = {(.urlFilter, "*"), (.urlFilter, "b*")} := by
    decide +kernel
  refine ⟨hprevious, hfresh.trans (by decide +kernel), ?_, hkeys.trans hset⟩
  have habsent : (PatternTag.urlFilter, "a*") ∉ c.ruleSet.keys.toFinset := by
    rw [hset]
    decide
  rwa [find?_eq_none, ← List.mem_toFinset, hkeys]

end MatcherCache

end ReplyRules
