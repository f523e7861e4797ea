import ReplyRules.Proofs.Matching.Survivors
import Mathlib.Data.List.Basic

/-!
The numbers of compiled rules.  A set is *numbered* when the rule at place `i` has the number `i + 1`
(`RuleSet.Numbered`); in such a set a rule is found by its number, and nothing else is found
(`RuleSet.Numbered.get?_eq_some_iff`).  The survivors of a list are numbered as long as 32 bits suffice for
them (`RuleSet.numbered_ofRules`).

The entries for the log go by another count than the numbers: a rule that does not compile has an entry,
but no number.  So a rule of the list is found by what stands before it: its entry behind those of the
eligible rules, and its place in the set behind the survivors.  There it is either registered
(`Compilation.Registers`) or refused (`Compilation.Refuses`).

Main result: what a list is compiled to, told by numbers and places, and that rules which are not compiled
leave no trace in it (`compileWith_numbered`).
-/

namespace ReplyRules

variable {previous : MatcherCache} {now : Instant} {c : Compilation} {r : Rule}
  {rules before behind : List Rule}

/-! ### Numbered sets -/

/-- As long as 32 bits suffice, numbers are counted from 1. -/
theorem Compilation.nextId_eq {n : Nat} (h : n + 1 < UInt32.size) : nextId n = UInt32.ofNat (n + 1) := by
  have hlast : n + 1 ≤ Nat.pow 2 32 - 1 := Nat.le_pred_of_lt h
  rw [nextId, Nat.min_eq_left hlast]

namespace RuleSet

variable {s : RuleSet}

/-- The numbers of the rules count from 1. -/
def Numbered (s : RuleSet) : Prop := ∀ i x, s.rules[i]? = some x → x.id.toNat = i + 1

theorem Numbered.map_toNat_ids (h : s.Numbered) : s.ids.map UInt32.toNat = List.range' 1 s.size := by
  refine List.ext_getElem? fun i => ?_
  show _ = (List.range' 1 s.rules.length)[i]?
  rw [ids, List.map_map, List.getElem?_map]
  cases hx : s.rules[i]? with
  | none =>
    have hi : s.rules.length ≤ i := List.getElem?_eq_none_iff.mp hx
    rw [List.getElem?_eq_none (by rwa [List.length_range']), Option.map_none]
  | some x =>
    have hi : i < s.rules.length := (List.getElem?_eq_some_iff.mp hx).1
    rw [List.getElem?_range' hi, Option.map_some, Function.comp_apply, h i x hx, Nat.one_mul,
      Nat.add_comm]

/-- **A rule is found by its number**, and by no other one. -/
theorem Numbered.get?_eq_some_iff (h : s.Numbered) {id : UInt32} {x : CompiledRule} :
    s.get? id = some x ↔ x ∈ s.rules ∧ x.id = id := by
  rw [get?]
  constructor
  · intro hget
    split at hget
    · cases hget
    · next n hn =>
      refine ⟨List.mem_of_getElem? hget, UInt32.toNat_inj.mp ?_⟩
      rw [h n x hget, hn]
  · rintro ⟨hx, rfl⟩
    obtain ⟨i, hi⟩ := List.mem_iff_getElem?.mp hx
    rw [h i x hi]
    exact hi

/-- Nothing is found outside the numbers. -/
theorem get?_eq_none_iff {id : UInt32} : s.get? id = none ↔ ¬ (1 ≤ id.toNat ∧ id.toNat ≤ s.size) := by
  rw [get?, size]
  split
  · next hid => simp [hid]
  · next n hid =>
    rw [hid, List.getElem?_eq_none_iff]
    omega

end RuleSet

/-! ### Places -/

namespace Rule

theorem getElem?_numberedFrom (n : Nat) (kept : List (Rule × Matcher)) (i : Nat) :
    (numberedFrom n kept)[i]? = kept[i]?.map fun s => s.1.compiled (Compilation.nextId (n + i)) s.2 := by
  induction kept generalizing n i with
  | nil => rfl
  | cons s kept ih =>
    cases i with
    | zero => rfl
    | succ i =>
      rw [numberedFrom, List.getElem?_cons_succ, ih, List.getElem?_cons_succ, Nat.add_right_comm,
        Nat.add_assoc n]

theorem length_survivors_le (rules : List Rule) : (survivors rules).length ≤ rules.length :=
  List.length_filterMap_le _ _

/-- A rule that is not compiled may as well not be in the list. -/
theorem survivors_without (h : r.survivor? = none) :
    survivors (before ++ r :: behind) = survivors (before ++ behind) := by
  rw [survivors_append, survivors_append, survivors, survivors, survivors, List.filterMap_cons_none h]

theorem length_diagnostic (n : Nat) (r : Rule) :
    (r.diagnostic now n).length = if r.isEligible then 1 else 0 := by
  unfold diagnostic
  split
  · split <;> rfl
  · rfl

/-- There are as many entries as eligible rules. -/
theorem length_diagnosticsFrom (now : Instant) (n : Nat) (rules : List Rule) :
    (diagnosticsFrom now n rules).length = (rules.filter isEligible).length := by
  induction rules generalizing n with
  | nil => rfl
  | cons r rules ih =>
    rw [diagnosticsFrom, List.length_append, length_diagnostic, ih, List.filter_cons]
    split
    · rw [List.length_cons, Nat.add_comm]
    · rw [Nat.zero_add]

/-- What is noted down of an eligible rule stands behind the entries of the eligible rules before it. -/
theorem getElem?_diagnosticsFrom {n : Nat} {entry : LogEntry}
    (h : r.diagnostic now (n + (survivors before).length) = [entry]) :
    (diagnosticsFrom now n (before ++ r :: behind))[(before.filter isEligible).length]? = some entry := by
  rw [diagnosticsFrom_append, diagnosticsFrom, h, ← length_diagnosticsFrom now n before,
    List.getElem?_append_right (Nat.le_refl _), Nat.sub_self]
  rfl

end Rule

/-- The survivors stand in their order, each with its place as its number. -/
theorem RuleSet.rules_ofRules_eq_mapIdx (h : rules.length < UInt32.size) :
    (ofRules rules).rules =
      (Rule.survivors rules).mapIdx fun i s => s.1.compiled (UInt32.ofNat (i + 1)) s.2 := by
  refine List.ext_getElem? fun i => ?_
  rw [ofRules, Rule.getElem?_numberedFrom, List.getElem?_mapIdx, Nat.zero_add]
  cases hs : (Rule.survivors rules)[i]? with
  | none => rfl
  | some s =>
    have hi : i < (Rule.survivors rules).length := (List.getElem?_eq_some_iff.mp hs).1
    have hle := Rule.length_survivors_le rules
    rw [Option.map_some, Option.map_some, Compilation.nextId_eq (by omega)]

theorem RuleSet.numbered_ofRules (h : rules.length < UInt32.size) : (ofRules rules).Numbered := by
  intro i x hx
  rw [rules_ofRules_eq_mapIdx h, List.getElem?_mapIdx, Option.map_eq_some_iff] at hx
  obtain ⟨s, hs, rfl⟩ := hx
  -- a number is never cut off, because there are no more survivors than rules
  have hi : i < (Rule.survivors rules).length := (List.getElem?_eq_some_iff.mp hs).1
  have hle := Rule.length_survivors_le rules
  exact UInt32.toNat_ofNat_of_lt' (by omega)

/-! ### What comes of each rule -/

namespace Compilation

/-- The rule that stands behind the rules `before` is in the set, and its entry tells its number. -/
def Registers (c : Compilation) (now : Instant) (before : List Rule) (r : Rule) : Prop :=
  ∃ m x, Matcher.compile r.urlPattern r.tag = .ok m ∧
    c.ruleSet.rules[(Rule.survivors before).length]? = some x ∧ x = r.compiled x.id m ∧
    c.diagnostics[(before.filter Rule.isEligible).length]? =
      some (.registered x.id r.urlPattern r.summary now)

/-- The rule that stands behind the rules `before` does not compile, and its entry tells why. -/
def Refuses (c : Compilation) (now : Instant) (before : List Rule) (r : Rule) : Prop :=
  ∃ e, Matcher.compile r.urlPattern r.tag = .error e ∧
    c.diagnostics[(before.filter Rule.isEligible).length]? =
      some (.error r.urlPattern (r.failureText e) now)

/-- **No eligible rule is passed over in silence.** -/
theorem Through.registers_or_refuses (h : Through now (before ++ r :: behind) c)
    (hr : r.isEligible = true) : c.Registers now before r ∨ c.Refuses now before r := by
  cases hm : Matcher.compile r.urlPattern r.tag with
  | ok m =>
    have hsome : r.survivor? = some (r, m) := Rule.survivor?_eq_some.mpr ⟨hr, hm, rfl⟩
    have hplace : (Rule.survivors (before ++ r :: behind))[(Rule.survivors before).length]? =
        some (r, m) := by
      rw [Rule.survivors_append, List.getElem?_append_right (Nat.le_refl _), Nat.sub_self,
        Rule.survivors, List.filterMap_cons_some hsome]
      rfl
    refine .inl ⟨m, r.compiled (nextId (Rule.survivors before).length) m, hm, ?_, rfl, ?_⟩
    · rw [h.ruleSet_eq, RuleSet.ofRules, Rule.getElem?_numberedFrom, hplace, Option.map_some,
        Nat.zero_add]
    · rw [h.diagnostics_eq, Rule.getElem?_diagnosticsFrom]
      simp only [Rule.diagnostic, hr, hm, if_true, Nat.zero_add]
      rfl
  | error e =>
    refine .inr ⟨e, hm, ?_⟩
    rw [h.diagnostics_eq, Rule.getElem?_diagnosticsFrom]
    simp only [Rule.diagnostic, hr, hm, if_true]

end Compilation

/-! ### Whole lists -/

/-- A rule that is switched off, incomplete or refused leaves the set as it is. -/
theorem RuleSet.ofRules_without
    (h : r.enabled = false ∨ r.isComplete = false ∨
      ∃ e, Matcher.compile r.urlPattern r.tag = .error e) :
    ofRules (before ++ behind) = ofRules (before ++ r :: behind) := by
  have hnone : r.survivor? = none := by
    rcases h with h | h | ⟨e, h⟩
    · simp [Rule.survivor?, Rule.isEligible, h]
    · simp [Rule.survivor?, Rule.isEligible, h]
    · simp [Rule.survivor?, h]
  rw [ofRules, ofRules, Rule.survivors_without hnone]

/-- **Compiled rules are numbered without gaps.**  With a sound cache and the switch on, the set has the
survivors in their order, with the numbers from 1 on, by which they are found; and of the eligible rules,
which all have one entry in the order of the list, those that survive are registered with their number, and
the others are refused.  All that is not compiled could be taken out of the list. -/
theorem compileWith_numbered (hp : previous.Sound) (hlength : rules.length < UInt32.size) (now : Instant) :
    let c := compileWith previous rules true now
    let kept := Rule.survivors rules
    c.ruleSet.rules = kept.mapIdx (fun i s => s.1.compiled (UInt32.ofNat (i + 1)) s.2) ∧
    c.ruleSet.ids.map UInt32.toNat = List.range' 1 kept.length ∧
    (∀ id x, c.ruleSet.get? id = some x ↔ x ∈ c.ruleSet.rules ∧ x.id = id) ∧
    (∀ id, c.ruleSet.get? id = none ↔ ¬ (1 ≤ id.toNat ∧ id.toNat ≤ kept.length)) ∧
    c.diagnostics.length = (rules.filter Rule.isEligible).length ∧
    (∀ before r behind, rules = before ++ r :: behind → r.isEligible = true →
      c.Registers now before r ∨ c.Refuses now before r) ∧
    (∀ before r behind, rules = before ++ r :: behind →
      (r.enabled = false ∨ r.isComplete = false ∨
        ∃ e, Matcher.compile r.urlPattern r.tag = .error e) →
      (compileWith previous (before ++ behind) true now).ruleSet = c.ruleSet) := by
  intro c kept
  have hthrough : Compilation.Through now rules c := compileWith_through hp rules now
  have hset : c.ruleSet = .ofRules rules := hthrough.ruleSet_eq
  have hnumbered : c.ruleSet.Numbered := by
    rw [hset]
    exact RuleSet.numbered_ofRules hlength
  have hsize : c.ruleSet.size = kept.length := by
    rw [hset, RuleSet.size_ofRules]
  refine ⟨?_, ?_, fun id x => hnumbered.get?_eq_some_iff, fun id => ?_, ?_, ?_, ?_⟩
  · rw [hset, RuleSet.rules_ofRules_eq_mapIdx hlength]
  · rw [hnumbered.map_toNat_ids, hsize]
  · rw [RuleSet.get?_eq_none_iff, hsize]
  · rw [hthrough.diagnostics_eq, Rule.length_diagnosticsFrom]
  · rintro before r behind rfl hr
    exact hthrough.registers_or_refuses hr
  · rintro before r behind rfl hr
    rw [hset, (compileWith_through hp (before ++ behind) now).ruleSet_eq, RuleSet.ofRules_without hr]

/-- A rule behind one that does not compile gets the next number, as if it stood there alone. -/
theorem compileWith_numbered_past_failure :
    let filter (pattern : String) : Rule :=
      { (default : Rule) with
        urlPattern := pattern, tag := .urlFilter, responseContent := "x", enabled := true }
    let failing : Rule := { filter "(" with tag := .regex }
    let rules := [filter "*", failing, default, filter "a*"]
    let previous := (compile [filter "a*"] true .epoch).cache
    let c := compileWith previous rules true .epoch
    c.ruleSet.ids.map UInt32.toNat = [1, 2] ∧ c.ruleSet.get? 2 ≠ none ∧ c.ruleSet.get? 3 = none ∧
      c.diagnostics.length = 3 ∧ c.Refuses .epoch [filter "*"] failing ∧
      (compileWith previous [filter "*", default, filter "a*"] true .epoch).ruleSet = c.ruleSet := by
  intro filter failing rules previous c
  have hprevious : previous.Sound :=
    (compileWith_cache MatcherCache.sound_empty [filter "a*"] true .epoch).1
  have hkept : (Rule.survivors rules).length = 2 := by decide +kernel
  obtain ⟨e, he⟩ : ∃ e, Matcher.compile failing.urlPattern failing.tag = .error e := by
    have hfails : (Matcher.compile failing.urlPattern failing.tag).toOption = none := by decide +kernel
    cases hm : Matcher.compile failing.urlPattern failing.tag with
    | ok m =>
      rw [hm] at hfails
      cases hfails
    | error e => exact ⟨e, rfl⟩
  obtain ⟨-, hids, -, hnone, hdiagnostics, hfates, hwithout⟩ :=
    compileWith_numbered hprevious (show rules.length < UInt32.size by decide) .epoch
  rw [hkept] at hids hnone
  refine ⟨hids, fun h => (hnone 2).mp h (by decide), (hnone 3).mpr (by decide), ?_, ?_, ?_⟩
  · exact hdiagnostics.trans (by decide +kernel)
  · rcases hfates [filter "*"] failing [default, filter "a*"] rfl (by decide) with
      ⟨m, x, hm, -⟩ | hrefuses
    · rw [he] at hm
      cases hm
    · exact hrefuses
  · exact hwithout [filter "*"] failing [default, filter "a*"] rfl (.inr (.inr ⟨e, he⟩))

end ReplyRules
