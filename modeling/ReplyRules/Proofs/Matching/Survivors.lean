import ReplyRules.Matching.Compilation
import ReplyRules.Proofs.Matching.Cache

/-!
Which rules a compilation keeps.  The *survivors* of a list are the rules that are switched on, complete
and have a pattern that compiles, each with its matcher; they are numbered in the order of the list
(`RuleSet.ofRules`).  No cache is spoken of in this.

A compilation is followed rule by rule: after the rules `done` it has the survivors of `done`, an entry
for each rule of them that was not passed over, and exactly the matchers in use
(`Compilation.Through`).  One more rule keeps this up (`Compilation.Through.visit`), so it holds of a
whole list.

Main result: with a sound cache, a list of rules compiles to its numbered survivors, and the new cache is
sound and has the keys of these rules (`compileWith_through`); so the set of rules does not depend on the
cache it was compiled with (`compileWith_ruleSet`).
-/

namespace ReplyRules

variable {previous : MatcherCache} {now : Instant} {c : Compilation} {r : Rule} {rules done : List Rule}

/-! ### Survivors -/

namespace Rule

/-- The rule with its matcher, if it is compiled. -/
def survivor? (r : Rule) : Option (Rule × Matcher) :=
  if r.isEligible then
    match Matcher.compile r.urlPattern r.tag with
    | .ok m => some (r, m)
    | .error _ => none
  else none

/-- The rules of a list that are compiled, with their matchers. -/
def survivors (rules : List Rule) : List (Rule × Matcher) := rules.filterMap survivor?

/-- Rules with their matchers, numbered behind `n` others. -/
def numberedFrom : Nat → List (Rule × Matcher) → List CompiledRule
  | _, [] => []
  | n, (r, m) :: kept => r.compiled (Compilation.nextId n) m :: numberedFrom (n + 1) kept

/-- What is noted down of a rule behind `n` survivors. -/
def diagnostic (now : Instant) (n : Nat) (r : Rule) : List LogEntry :=
  if r.isEligible then
    match Matcher.compile r.urlPattern r.tag with
    | .ok _ => [.registered (Compilation.nextId n) r.urlPattern r.summary now]
    | .error e => [.error r.urlPattern (r.failureText e) now]
  else []

/-- What is noted down of the rules of a list behind `n` survivors. -/
def diagnosticsFrom (now : Instant) : Nat → List Rule → List LogEntry
  | _, [] => []
  | n, r :: rules =>
    r.diagnostic now n ++ diagnosticsFrom now (n + (survivors [r]).length) rules

/-- The three things that can come of a rule: it is passed over, it is kept with a matcher, or its
pattern does not compile. -/
theorem fate (r : Rule) :
    r.isEligible = false ∨
      (r.isEligible = true ∧ ∃ m, Matcher.compile r.urlPattern r.tag = .ok m) ∨
        (r.isEligible = true ∧ ∃ e, Matcher.compile r.urlPattern r.tag = .error e) := by
  cases hr : r.isEligible with
  | false => exact .inl rfl
  | true =>
    cases hm : Matcher.compile r.urlPattern r.tag with
    | ok m => exact .inr (.inl ⟨rfl, m, rfl⟩)
    | error e => exact .inr (.inr ⟨rfl, e, rfl⟩)

theorem survivor?_eq_some {s : Rule × Matcher} :
    r.survivor? = some s ↔
      r.isEligible = true ∧ Matcher.compile r.urlPattern r.tag = .ok s.2 ∧ s.1 = r := by
  obtain ⟨r', m'⟩ := s
  rcases r.fate with hr | ⟨hr, m, hm⟩ | ⟨hr, e, he⟩
  · simp [survivor?, hr]
  · simp only [survivor?, hr, hm, if_true, Option.some.injEq, Prod.mk.injEq, Except.ok.injEq,
      true_and]
    constructor
    · rintro ⟨rfl, rfl⟩
      exact ⟨rfl, rfl⟩
    · rintro ⟨rfl, rfl⟩
      exact ⟨rfl, rfl⟩
  · simp [survivor?, hr, he]

theorem survivors_append (rules rules' : List Rule) :
    survivors (rules ++ rules') = survivors rules ++ survivors rules' :=
  List.filterMap_append

theorem survivors_of_none (h : r.survivor? = none) : survivors [r] = [] :=
  List.filterMap_cons_none h

theorem survivors_of_some {s : Rule × Matcher} (h : r.survivor? = some s) : survivors [r] = [s] :=
  List.filterMap_cons_some h

theorem length_numberedFrom (n : Nat) (kept : List (Rule × Matcher)) :
    (numberedFrom n kept).length = kept.length := by
  induction kept generalizing n with
  | nil => rfl
  | cons s kept ih => exact congrArg (· + 1) (ih (n + 1))

theorem numberedFrom_append (n : Nat) (kept kept' : List (Rule × Matcher)) :
    numberedFrom n (kept ++ kept') =
      numberedFrom n kept ++ numberedFrom (n + kept.length) kept' := by
  induction kept generalizing n with
  | nil => rfl
  | cons s kept ih =>
    rw [List.cons_append, numberedFrom, ih, List.length_cons, Nat.add_right_comm, Nat.add_assoc n]
    rfl

theorem diagnosticsFrom_append (n : Nat) (rules rules' : List Rule) :
    diagnosticsFrom now n (rules ++ rules') =
      diagnosticsFrom now n rules ++ diagnosticsFrom now (n + (survivors rules).length) rules' := by
  induction rules generalizing n with
  | nil => rfl
  | cons r rules ih =>
    rw [List.cons_append, diagnosticsFrom, ih, diagnosticsFrom, List.append_assoc,
      show r :: rules = [r] ++ rules from rfl, survivors_append, List.length_append, Nat.add_assoc]

theorem diagnosticsFrom_concat (n : Nat) :
    diagnosticsFrom now n (rules ++ [r]) =
      diagnosticsFrom now n rules ++ r.diagnostic now (n + (survivors rules).length) := by
  rw [diagnosticsFrom_append, diagnosticsFrom, diagnosticsFrom, List.append_nil]

end Rule

/-! ### Sets of survivors -/

namespace RuleSet

/-- The survivors of a list, numbered. -/
def ofRules (rules : List Rule) : RuleSet := ⟨Rule.numberedFrom 0 (Rule.survivors rules)⟩

/-- The patterns of the rules with their languages. -/
def keys (s : RuleSet) : List (PatternTag × String) :=
  s.rules.map fun r => (r.matcher.tag, r.matcher.pattern)

theorem size_ofRules : (ofRules rules).size = (Rule.survivors rules).length :=
  Rule.length_numberedFrom 0 _

theorem rules_ofRules_append (rules rules' : List Rule) :
    (ofRules (rules ++ rules')).rules =
      (ofRules rules).rules ++
        Rule.numberedFrom (Rule.survivors rules).length (Rule.survivors rules') := by
  rw [ofRules, Rule.survivors_append, Rule.numberedFrom_append, Nat.zero_add]
  rfl

/-- A rule that is passed over, or cannot be compiled, leaves the set as it is. -/
theorem ofRules_concat_of_none (h : r.survivor? = none) : ofRules (rules ++ [r]) = ofRules rules := by
  rw [ofRules, Rule.survivors_append, Rule.survivors_of_none h, List.append_nil, ofRules]

/-- A rule that is compiled gets the next number. -/
theorem ofRules_concat_of_some {m : Matcher} (h : r.survivor? = some (r, m)) :
    ofRules (rules ++ [r]) =
      ⟨(ofRules rules).rules ++ [r.compiled (Compilation.nextId (ofRules rules).size) m]⟩ := by
  refine congrArg RuleSet.mk ((rules_ofRules_append rules [r]).trans ?_)
  rw [size_ofRules, Rule.survivors_of_some h]
  rfl

end RuleSet

/-! ### Rule by rule -/

namespace Compilation

/-- The compilation behind one more rule, which may be passed over. -/
def visit (previous : MatcherCache) (now : Instant) (c : Compilation) (r : Rule) : Compilation :=
  if r.isEligible then c.addRule previous now r else c

/-- The compilation is behind the rules `done`. -/
structure Through (now : Instant) (done : List Rule) (c : Compilation) : Prop where
  ruleSet_eq : c.ruleSet = .ofRules done
  diagnostics_eq : c.diagnostics = Rule.diagnosticsFrom now 0 done
  sound : c.cache.Sound
  mem_keys : ∀ key, key ∈ c.cache.keys ↔ key ∈ c.ruleSet.keys

theorem through_empty (now : Instant) : Through now [] .empty where
  ruleSet_eq := rfl
  diagnostics_eq := rfl
  sound := MatcherCache.sound_empty
  mem_keys := fun _ => Iff.rfl

/-- **One more rule.**  Whatever comes of it, the compilation is behind it. -/
theorem Through.visit (hp : previous.Sound) (h : Through now done c) (r : Rule) :
    Through now (done ++ [r]) (c.visit previous now r) := by
  have hdiagnostics : Rule.diagnosticsFrom now 0 (done ++ [r]) =
      c.diagnostics ++ r.diagnostic now c.ruleSet.size := by
    rw [Rule.diagnosticsFrom_concat, h.diagnostics_eq, h.ruleSet_eq, RuleSet.size_ofRules,
      Nat.zero_add]
  rcases r.fate with hr | ⟨hr, m, hm⟩ | ⟨hr, e, he⟩
  · -- passed over
    have hnone : r.survivor? = none := by simp [Rule.survivor?, hr]
    have hentry : r.diagnostic now c.ruleSet.size = [] := by simp [Rule.diagnostic, hr]
    rw [Compilation.visit, hr, if_neg Bool.false_ne_true]
    exact ⟨h.ruleSet_eq.trans (RuleSet.ofRules_concat_of_none hnone).symm,
      by rw [hdiagnostics, hentry, List.append_nil], h.sound, h.mem_keys⟩
  · -- kept: its key is in use from now on
    have hsome : r.survivor? = some (r, m) := Rule.survivor?_eq_some.mpr ⟨hr, hm, rfl⟩
    have hentry : r.diagnostic now c.ruleSet.size =
        [.registered (nextId c.ruleSet.size) r.urlPattern r.summary now] := by
      simp [Rule.diagnostic, hr, hm]
    obtain ⟨fresh, next, hresolve, hsound, hkeys⟩ := MatcherCache.resolve_ok hp h.sound hm
    rw [Compilation.visit, hr, if_pos rfl, addRule, hresolve]
    refine ⟨?_, by rw [hdiagnostics, hentry], hsound, fun key => ?_⟩
    · rw [RuleSet.ofRules_concat_of_some hsome, ← h.ruleSet_eq]
    · rw [hkeys, h.mem_keys, RuleSet.keys, RuleSet.keys, List.map_append, List.mem_append, Or.comm,
        List.map_singleton, List.mem_singleton, ← Matcher.key_of_compile hm]
      rfl
  · -- refused
    have hnone : r.survivor? = none := by simp [Rule.survivor?, hr, he]
    have hentry : r.diagnostic now c.ruleSet.size = [.error r.urlPattern (r.failureText e) now] := by
      simp [Rule.diagnostic, hr, he]
    rw [Compilation.visit, hr, if_pos rfl, addRule, MatcherCache.resolve_error hp h.sound he]
    exact ⟨h.ruleSet_eq.trans (RuleSet.ofRules_concat_of_none hnone).symm,
      by rw [hdiagnostics, hentry], h.sound, h.mem_keys⟩

theorem Through.foldl_visit (hp : previous.Sound) (h : Through now done c) (rules : List Rule) :
    Through now (done ++ rules) (rules.foldl (Compilation.visit previous now) c) := by
  induction rules generalizing done c with
  | nil =>
    rw [List.append_nil]
    exact h
  | cons r rules ih =>
    rw [← List.singleton_append, ← List.append_assoc]
    exact ih (h.visit hp r)

end Compilation

/-! ### Whole lists -/

theorem compileWith_eq_foldl (previous : MatcherCache) (rules : List Rule) (now : Instant) :
    compileWith previous rules true now = rules.foldl (Compilation.visit previous now) .empty :=
  List.foldl_filter

/-- **With a sound cache, the survivors are compiled**, and the matchers in use are theirs. -/
theorem compileWith_through (hp : previous.Sound) (rules : List Rule) (now : Instant) :
    Compilation.Through now rules (compileWith previous rules true now) := by
  rw [compileWith_eq_foldl]
  exact (Compilation.through_empty now).foldl_visit hp rules

/-- The set that is compiled depends on nothing but the rules and the switch. -/
theorem compileWith_ruleSet (hp : previous.Sound) (rules : List Rule) (enabled : Bool)
    (now : Instant) :
    (compileWith previous rules enabled now).ruleSet =
      if enabled then .ofRules rules else .empty := by
  cases enabled with
  | false => rfl
  | true => exact (compileWith_through hp rules now).ruleSet_eq

/-- What is noted down does not depend on the cache either. -/
theorem compileWith_diagnostics (hp : previous.Sound) (rules : List Rule) (enabled : Bool)
    (now : Instant) :
    (compileWith previous rules enabled now).diagnostics =
      (compile rules enabled now).diagnostics := by
  cases enabled with
  | false => rfl
  | true =>
    rw [compile, (compileWith_through hp rules now).diagnostics_eq,
      (compileWith_through MatcherCache.sound_empty rules now).diagnostics_eq]

/-- The cache that is left has the matchers of the set, whether the switch is on or off. -/
theorem compileWith_cache (hp : previous.Sound) (rules : List Rule) (enabled : Bool)
    (now : Instant) :
    (compileWith previous rules enabled now).cache.Sound ∧
      ∀ key, key ∈ (compileWith previous rules enabled now).cache.keys ↔
        key ∈ (compileWith previous rules enabled now).ruleSet.keys := by
  cases enabled with
  | false => exact ⟨MatcherCache.sound_empty, fun _ => Iff.rfl⟩
  | true =>
    have h := compileWith_through hp rules now
    exact ⟨h.sound, h.mem_keys⟩

end ReplyRules
