import ReplyRules.Proofs.Matching.Answer
import ReplyRules.Proofs.Matching.MatchType
import ReplyRules.Proofs.Matching.Numbering

/-!
What is accepted is registered.  Patterns are compiled at two places: a regular expression when it is
entered, and every stored pattern when the rules are compiled.  An accepted input makes a rule that is ready
for the second place (`RuleInput.Ready`): it is switched on, complete, and the text that will be compiled is
a regular expression, either the very one that has been tried, or what is made of a filter.

A list of rules that all compile is compiled without gaps: the rules keep their places, and there is one
entry for each of them (`Rule.map_fst_survivors`, `Rule.diagnosticsFrom_of_survive`).

Main result: accepted rules are all registered, unless the program for a filter is too big
(`compileWith_validated`).
-/

namespace ReplyRules

variable {previous : MatcherCache} {input : RuleInput} {now : Instant} {r : Rule} {rules : List Rule}

/-! ### Accepted rules -/

/-- The rule is made of the input, and nothing stands in the way of compiling it but the size of its
program. -/
structure RuleInput.Ready (input : RuleInput) (r : Rule) : Prop where
  enabled : r.enabled = true
  complete : r.isComplete = true
  effectivePriority_eq : r.effectivePriority = r.priority
  /-- What is entered as a regular expression is compiled as it has been tried. -/
  tried : input.matchType = .regex →
    Matcher.regexText r.urlPattern r.tag = Text.trim input.pattern ∧
      ∃ regex, Regex.compile (Text.trim input.pattern) = .ok regex
  readable : ∃ e, Regex.exprOf (Matcher.regexText r.urlPattern r.tag).toList = .ok e

namespace Regex

/-- What compiles is a regular expression. -/
theorem exists_exprOf_of_compile {pattern : String} {regex : Regex} (h : compile pattern = .ok regex) :
    ∃ e, exprOf pattern.toList = .ok e := by
  rw [compile] at h
  split at h
  · cases h
  · next e he => exact ⟨e, he⟩

end Regex

theorem RuleInput.ready_of_validate (h : input.validate now = .ok r) : input.Ready r := by
  have hcomplete := isComplete_of_validate h
  obtain ⟨hcheck, rfl⟩ := validate_eq_ok_iff.mp h
  obtain ⟨-, -, hregex⟩ := check_eq_ok_iff.mp hcheck
  refine ⟨rfl, hcomplete, Rule.max_one_max_one _, fun hkind => ⟨?_, hregex hkind⟩, ?_⟩
  · rw [toRule, hkind]
    rfl
  · by_cases hkind : input.matchType = .regex
    · obtain ⟨regex, hcompile⟩ := hregex hkind
      rw [toRule, hkind]
      exact Regex.exists_exprOf_of_compile hcompile
    · rw [toRule, MatchType.tag_eq_urlFilter hkind]
      exact ⟨_, Matcher.exprOf_filterRegex _⟩

/-- An accepted rule is compiled, if it is no filter with too big a program. -/
theorem RuleInput.exists_survivor_of_validate (h : input.validate now = .ok r)
    (hsize : r.tag = .urlFilter →
      Matcher.compile r.urlPattern .urlFilter ≠ .error (.tooBig Regex.sizeLimit)) :
    ∃ m, r.survivor? = some (r, m) := by
  have hready := ready_of_validate h
  have heligible : r.isEligible = true := by
    rw [Rule.isEligible, hready.enabled, hready.complete, Bool.and_self]
  obtain ⟨m, hm⟩ : ∃ m, Matcher.compile r.urlPattern r.tag = .ok m := by
    by_cases hkind : input.matchType = .regex
    · obtain ⟨htext, regex, hregex⟩ := hready.tried hkind
      rw [Matcher.compile, htext, hregex]
      exact ⟨_, rfl⟩
    · -- a filter is refused for its size only
      have htag : r.tag = .urlFilter := by
        obtain ⟨-, rfl⟩ := validate_eq_ok_iff.mp h
        exact MatchType.tag_eq_urlFilter hkind
      rw [htag]
      refine Matcher.exists_compile_of_fits ?_
      rw [← Bool.not_eq_false]
      intro hfits
      exact hsize htag ((Matcher.compile_urlFilter _).trans (if_neg (Bool.not_eq_true _ ▸ hfits)))
  exact ⟨m, Rule.survivor?_eq_some.mpr ⟨heligible, hm, rfl⟩⟩

/-! ### Lists without gaps -/

namespace Rule

/-- Where every rule is compiled, the rules keep their places. -/
theorem map_fst_survivors (h : ∀ r ∈ rules, ∃ m, r.survivor? = some (r, m)) :
    (survivors rules).map Prod.fst = rules := by
  induction rules with
  | nil => rfl
  | cons r rules ih =>
    obtain ⟨⟨m, hm⟩, hrules⟩ := List.forall_mem_cons.mp h
    rw [survivors, List.filterMap_cons_some hm, List.map_cons]
    exact congrArg (r :: ·) (ih hrules)

/-- Where every rule is compiled, there is one entry for each of them, with its number. -/
theorem diagnosticsFrom_of_survive (h : ∀ r ∈ rules, ∃ m, r.survivor? = some (r, m)) (n : Nat) :
    diagnosticsFrom now n rules = rules.mapIdx fun i r =>
      .registered (Compilation.nextId (n + i)) r.urlPattern r.summary now := by
  induction rules generalizing n with
  | nil => rfl
  | cons r rules ih =>
    obtain ⟨⟨m, hm⟩, hrules⟩ := List.forall_mem_cons.mp h
    obtain ⟨heligible, hcompile, -⟩ := survivor?_eq_some.mp hm
    have hentry : r.diagnostic now n =
        [.registered (Compilation.nextId n) r.urlPattern r.summary now] := by
      simp only [diagnostic, heligible, hcompile, if_true]
    rw [diagnosticsFrom, hentry, survivors_of_some hm, ih hrules, List.mapIdx_cons]
    simp only [List.length_singleton, List.singleton_append, Nat.add_zero, Nat.add_assoc, Nat.add_comm 1]

/-- Where every rule is compiled, each one is found in its place. -/
theorem getElem?_ofRules_of_survive (h : ∀ r ∈ rules, ∃ m, r.survivor? = some (r, m)) {i : Nat}
    (hr : rules[i]? = some r) :
    ∃ m, Matcher.compile r.urlPattern r.tag = .ok m ∧
      (RuleSet.ofRules rules).rules[i]? = some (r.compiled (Compilation.nextId i) m) := by
  have hplace : ((survivors rules).map Prod.fst)[i]? = some r := by rwa [map_fst_survivors h]
  rw [List.getElem?_map, Option.map_eq_some_iff] at hplace
  obtain ⟨⟨_, m⟩, hs, rfl⟩ := hplace
  obtain ⟨-, hcompile, -⟩ := survivor?_eq_some.mp (mem_survivors.mp (List.mem_of_getElem? hs)).2
  refine ⟨m, hcompile, ?_⟩
  rw [RuleSet.ofRules, getElem?_numberedFrom, hs, Option.map_some, Nat.zero_add]

end Rule

/-! ### Accepted lists -/

/-- **What is accepted is registered.**  Every accepted input makes a rule that is ready to be compiled.
With a sound cache and the switch on, a list of such rules is compiled without gaps: all of them are in the
set, each in its place, and there is an entry for each of them that says so, and no other one.  Only a filter
whose program is too big is kept from this, for the text that is made of a filter is always a regular
expression. -/
theorem compileWith_validated (hp : previous.Sound)
    (haccepted : ∀ r ∈ rules, ∃ input entered, RuleInput.validate input entered = .ok r)
    (hsize : ∀ r ∈ rules, r.tag = .urlFilter →
      Matcher.compile r.urlPattern .urlFilter ≠ .error (.tooBig Regex.sizeLimit)) (now : Instant) :
    let c := compileWith previous rules true now
    (∀ input entered r, RuleInput.validate input entered = .ok r → input.Ready r) ∧
    (∀ pattern, ∃ e, Regex.exprOf (Matcher.filterRegex pattern).toList = .ok e) ∧
    c.ruleSet.size = rules.length ∧
    (∀ i (r : Rule), rules[i]? = some r → ∃ m, Matcher.compile r.urlPattern r.tag = .ok m ∧
      c.ruleSet.rules[i]? = some (r.compiled (Compilation.nextId i) m)) ∧
    c.diagnostics = rules.mapIdx (fun i r =>
      .registered (Compilation.nextId i) r.urlPattern r.summary now) ∧
    ∀ entry ∈ c.diagnostics, entry.action ≠ .error := by
  intro c
  have hsurvive : ∀ r ∈ rules, ∃ m, r.survivor? = some (r, m) := by
    intro r hr
    obtain ⟨input, entered, h⟩ := haccepted r hr
    exact RuleInput.exists_survivor_of_validate h (hsize r hr)
  have hthrough : Compilation.Through now rules c := compileWith_through hp rules now
  have hentries : c.diagnostics = rules.mapIdx fun i r =>
      .registered (Compilation.nextId i) r.urlPattern r.summary now := by
    rw [hthrough.diagnostics_eq, Rule.diagnosticsFrom_of_survive hsurvive]
    simp only [Nat.zero_add]
  refine ⟨fun _ _ _ => RuleInput.ready_of_validate, fun pattern => ⟨_, Matcher.exprOf_filterRegex pattern⟩,
    ?_, fun i r hr => ?_, hentries, fun entry hentry => ?_⟩
  · rw [hthrough.ruleSet_eq, RuleSet.size_ofRules, ← List.length_map Prod.fst,
      Rule.map_fst_survivors hsurvive]
  · rw [hthrough.ruleSet_eq]
    exact Rule.getElem?_ofRules_of_survive hsurvive hr
  · rw [hentries, List.mem_mapIdx] at hentry
    obtain ⟨i, hi, rfl⟩ := hentry
    exact nofun

/-- A filter and a regular expression, entered with blanks around them and with signs in them that mean
something in a regular expression; the filter is none, and neither is refused. -/
theorem compileWith_validated_brackets :
    let filter : RuleInput := { RuleInput.plain " [(*\\ " "x" with matchType := .beginning }
    let regex : RuleInput :=
      { RuleInput.plain "\t/(v\\[1)?$ " "x" with matchType := .regex, priority := 0 }
    let rules := [filter.toRule "[(*\\" .epoch, regex.toRule "/(v\\[1)?$" .epoch]
    let c := compileWith .empty rules true .epoch
    (∀ r ∈ rules, ∃ input entered, RuleInput.validate input entered = .ok r) ∧
      c.ruleSet.size = 2 ∧ (∀ entry ∈ c.diagnostics, entry.action ≠ .error) ∧
      (Regex.compile "[(*\\*").toOption = none := by
  intro filter regex rules c
  have hfilter : Text.trim filter.pattern = "[(*\\" := by decide +kernel
  have hregex : Text.trim regex.pattern = "/(v\\[1)?$" := by decide +kernel
  have haccepted : ∀ r ∈ rules, ∃ input entered, RuleInput.validate input entered = .ok r := by
    refine List.forall_mem_cons.mpr ⟨⟨filter, .epoch, ?_⟩, List.forall_mem_singleton.mpr ⟨regex, .epoch, ?_⟩⟩
    · rw [RuleInput.validate_eq_ok_iff, hfilter]
      exact ⟨rfl, rfl⟩
    · rw [RuleInput.validate_eq_ok_iff, hregex, RuleInput.check_eq_ok_iff]
      refine ⟨⟨by decide, by decide, fun _ => ?_⟩, rfl⟩
      have hcompiles : (Regex.compile "/(v\\[1)?$").toOption.isSome = true := by decide +kernel
      cases h : Regex.compile "/(v\\[1)?$" with
      | ok compiled => exact ⟨compiled, rfl⟩
      | error e =>
        rw [h] at hcompiles
        cases hcompiles
  have hsize : ∀ r ∈ rules, r.tag = .urlFilter →
      Matcher.compile r.urlPattern .urlFilter ≠ .error (.tooBig Regex.sizeLimit) := by
    refine List.forall_mem_cons.mpr ⟨fun _ => ?_, List.forall_mem_singleton.mpr fun htag => nomatch htag⟩
    obtain ⟨m, hm⟩ : ∃ m, Matcher.compile "[(*\\*" .urlFilter = .ok m :=
      Matcher.exists_compile_of_fits (by decide +kernel)
    exact ne_of_eq_of_ne hm nofun
  obtain ⟨-, -, hcount, -, -, hnone⟩ :=
    compileWith_validated MatcherCache.sound_empty haccepted hsize .epoch
  exact ⟨haccepted, hcount, hnone, by decide +kernel⟩

end ReplyRules
