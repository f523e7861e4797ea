import ReplyRules.Proofs.Matching.Survivors
import ReplyRules.Proofs.Matching.Evaluation
import ReplyRules.Proofs.Traffic.Resource

/-!
The answer to a request, told from the stored rules.  A stored rule *covers* a request when it is
switched on and complete, its pattern compiles to a matcher that accepts the URL, and its filter lets the
kind pass (`Rule.Covers`); the first of those with the greatest priority is meant to answer
(`Rule.Foremost`, `Rule.Answers`).

Rules that are passed over have no place in the compiled set, so the two lists are split at the same rule
first (`RuleSet.rules_ofRules_eq_iff`), and what is asked of the rules before and behind it is carried
over from the compiled rules to the stored ones (`Rule.forall_numberedFrom_iff`).

Main result: the compiled set gives the answer that is meant, and none while the switch is off
(`compile_evaluate_iff`).
-/

namespace ReplyRules

variable {rules : List Rule} {r : Rule} {request : Request} {hit : CompiledRule} {m : Matcher}

/-! ### Rules that cover a request -/

namespace Rule

/-- The rule, as it is stored, is for the request. -/
structure Covers (r : Rule) (request : Request) : Prop where
  enabled : r.enabled = true
  pattern_ne : r.urlPattern ≠ ""
  content_ne : r.responseContent ≠ ""
  accepted : ∃ m, Matcher.compile r.urlPattern r.tag = .ok m ∧ m.accepts request.url = true
  kind_passes : ∀ kinds ∈ r.resourceTypes, kinds = [] ∨ request.kind ∈ kinds

/-- Between the rules before it and those behind it, the rule is the one that answers: it covers the request,
and of those that do so, none before it has a priority as great, and none behind it a greater one. -/
structure Foremost (request : Request) (before : List Rule) (r : Rule) (behind : List Rule) : Prop where
  covers : r.Covers request
  before_lt : ∀ q ∈ before, q.Covers request → q.effectivePriority < r.effectivePriority
  behind_le : ∀ q ∈ behind, q.Covers request → q.effectivePriority ≤ r.effectivePriority

/-- The answer that the stored rules give: among those that cover the request, the first one with the
greatest priority, where a priority counts as 1 at least.  The answer is this rule compiled. -/
def Answers (rules : List Rule) (request : Request) (hit : CompiledRule) : Prop :=
  ∃ before r behind, rules = before ++ r :: behind ∧ r.Covers request ∧
    (∀ q ∈ before, q.Covers request → max q.priority 1 < max r.priority 1) ∧
    (∀ q ∈ behind, q.Covers request → max q.priority 1 ≤ max r.priority 1) ∧
    hit.id = Compilation.nextId (survivors before).length ∧
    hit.priority = max r.priority 1 ∧
    Matcher.compile r.urlPattern r.tag = .ok hit.matcher ∧
    hit.matcher.pattern = r.urlPattern ∧ hit.matcher.tag = r.tag ∧
    hit.resources = .ofFilter r.resourceTypes ∧
    hit.payload = .ofContent r.responseContent r.responseType

theorem isEligible_iff :
    r.isEligible = true ↔ r.enabled = true ∧ r.urlPattern ≠ "" ∧ r.responseContent ≠ "" := by
  rw [isEligible, isComplete, Bool.and_eq_true, Bool.and_eq_true, bne_iff_ne, bne_iff_ne]

/-- A rule that covers a request is compiled. -/
theorem Covers.exists_survivor (h : r.Covers request) : ∃ m, r.survivor? = some (r, m) := by
  obtain ⟨m, hm, -⟩ := h.accepted
  have heligible : r.isEligible = true :=
    isEligible_iff.mpr ⟨h.enabled, h.pattern_ne, h.content_ne⟩
  exact ⟨m, survivor?_eq_some.mpr ⟨heligible, hm, rfl⟩⟩

/-- Once it is compiled, a rule applies to the requests that it covers. -/
theorem compiled_appliesTo_iff (h : r.survivor? = some (r, m)) (id : UInt32) :
    (r.compiled id m).appliesTo request = true ↔ r.Covers request := by
  obtain ⟨heligible, hm, -⟩ := survivor?_eq_some.mp h
  obtain ⟨henabled, hpattern, hcontent⟩ := isEligible_iff.mp heligible
  rw [CompiledRule.appliesTo, Bool.and_eq_true]
  show (ResourceSet.ofFilter r.resourceTypes).contains request.kind = true ∧ _ ↔ _
  rw [ResourceSet.contains_ofFilter]
  constructor
  · rintro ⟨hkind, haccepts⟩
    exact ⟨henabled, hpattern, hcontent, ⟨m, hm, haccepts⟩, hkind⟩
  · intro hcovers
    obtain ⟨m', hm', haccepts⟩ := hcovers.accepted
    obtain rfl : m' = m := Except.ok.inj (hm'.symm.trans hm)
    exact ⟨hcovers.kind_passes, haccepts⟩

theorem mem_numberedFrom {n : Nat} {kept : List (Rule × Matcher)} {x : CompiledRule}
    (h : x ∈ numberedFrom n kept) : ∃ s ∈ kept, ∃ id, x = s.1.compiled id s.2 := by
  induction kept generalizing n with
  | nil => exact absurd h List.not_mem_nil
  | cons s kept ih =>
    rcases List.mem_cons.mp h with rfl | h
    · exact ⟨s, List.mem_cons_self, _, rfl⟩
    · obtain ⟨s', hs', hx⟩ := ih h
      exact ⟨s', List.mem_cons_of_mem s hs', hx⟩

theorem exists_mem_numberedFrom (n : Nat) {kept : List (Rule × Matcher)} {s : Rule × Matcher}
    (h : s ∈ kept) : ∃ id, s.1.compiled id s.2 ∈ numberedFrom n kept := by
  induction kept generalizing n with
  | nil => exact absurd h List.not_mem_nil
  | cons s' kept ih =>
    rcases List.mem_cons.mp h with rfl | h
    · exact ⟨_, List.mem_cons_self⟩
    · obtain ⟨id, hid⟩ := ih (n + 1) h
      exact ⟨id, List.mem_cons_of_mem _ hid⟩

theorem mem_survivors {s : Rule × Matcher} :
    s ∈ survivors rules ↔ s.1 ∈ rules ∧ s.1.survivor? = some s := by
  rw [survivors, List.mem_filterMap]
  constructor
  · rintro ⟨r, hr, hs⟩
    obtain rfl := (survivor?_eq_some.mp hs).2.2
    exact ⟨hr, hs⟩
  · rintro ⟨hr, hs⟩
    exact ⟨s.1, hr, hs⟩

/-- What holds of the priorities of all compiled rules that apply holds of the priorities of all stored
rules that cover the request. -/
theorem forall_numberedFrom_iff (p : UInt32 → Prop) (n : Nat) :
    (∀ y ∈ numberedFrom n (survivors rules), y.appliesTo request = true → p y.priority) ↔
      ∀ q ∈ rules, q.Covers request → p q.effectivePriority := by
  constructor
  · intro h q hq hcovers
    obtain ⟨m, hm⟩ := hcovers.exists_survivor
    obtain ⟨id, hid⟩ := exists_mem_numberedFrom n (mem_survivors (s := (q, m)).mpr ⟨hq, hm⟩)
    exact h _ hid ((compiled_appliesTo_iff hm id).mpr hcovers)
  · intro h y hy happ
    obtain ⟨⟨q, m⟩, hs, id, rfl⟩ := mem_numberedFrom hy
    obtain ⟨hq, hm⟩ := mem_survivors.mp hs
    exact h q hq ((compiled_appliesTo_iff hm id).mp happ)

end Rule

/-! ### Where a compiled rule comes from -/

namespace Rule

theorem eq_append_cons_of_numberedFrom {n : Nat} {kept : List (Rule × Matcher)}
    {before' behind' : List CompiledRule} (h : numberedFrom n kept = before' ++ hit :: behind') :
    ∃ before s behind, kept = before ++ s :: behind ∧ before' = numberedFrom n before ∧
      hit = s.1.compiled (Compilation.nextId (n + before.length)) s.2 ∧
      behind' = numberedFrom (n + before.length + 1) behind := by
  induction before' generalizing n kept with
  | nil =>
    cases kept with
    | nil => cases h
    | cons s kept =>
      obtain ⟨rfl, rfl⟩ := List.cons.inj h
      exact ⟨[], s, kept, rfl, rfl, rfl, rfl⟩
  | cons x before' ih =>
    cases kept with
    | nil => cases h
    | cons s kept =>
      obtain ⟨rfl, htail⟩ := List.cons.inj h
      obtain ⟨before, s', behind, rfl, rfl, rfl, rfl⟩ := ih htail
      refine ⟨s :: before, s', behind, rfl, rfl, ?_, ?_⟩
      · rw [List.length_cons, Nat.add_right_comm, Nat.add_assoc n]
      · rw [List.length_cons, Nat.add_right_comm n 1, Nat.add_assoc n]

end Rule

namespace RuleSet

/-- A compiled set is split at a rule as the list that it was compiled from. -/
theorem rules_ofRules_eq_iff {before' behind' : List CompiledRule} :
    (ofRules rules).rules = before' ++ hit :: behind' ↔
      ∃ before r behind m, rules = before ++ r :: behind ∧ r.survivor? = some (r, m) ∧
        before' = Rule.numberedFrom 0 (Rule.survivors before) ∧
        hit = r.compiled (Compilation.nextId (Rule.survivors before).length) m ∧
        behind' = Rule.numberedFrom ((Rule.survivors before).length + 1)
          (Rule.survivors behind) := by
  constructor
  · intro h
    obtain ⟨kept, ⟨r', m⟩, kept', hkept, rfl, rfl, rfl⟩ := Rule.eq_append_cons_of_numberedFrom h
    obtain ⟨front, rest, rfl, rfl, hrest⟩ := List.filterMap_eq_append_iff.mp hkept
    obtain ⟨skipped, r, behind, rfl, hskipped, hr, rfl⟩ := List.filterMap_eq_cons_iff.mp hrest
    obtain rfl := (Rule.survivor?_eq_some.mp hr).2.2
    -- the rules that were passed over go with those before them
    have hfront : Rule.survivors (front ++ skipped) = front.filterMap Rule.survivor? := by
      rw [Rule.survivors_append, Rule.survivors, Rule.survivors,
        List.filterMap_eq_nil_iff.mpr hskipped, List.append_nil]
    refine ⟨front ++ skipped, r', behind, m, ?_, hr, ?_, ?_, ?_⟩
    · rw [List.append_assoc]
    · rw [hfront]
    · rw [hfront, Nat.zero_add]
    · rw [hfront, Nat.zero_add]
      rfl
  · rintro ⟨before, r, behind, m, rfl, hm, rfl, rfl, rfl⟩
    rw [rules_ofRules_append, ← List.singleton_append, Rule.survivors_append,
      Rule.survivors_of_some hm]
    rfl

/-- What leads in a compiled set is compiled from the foremost of the stored rules. -/
theorem leads_ofRules_iff_foremost :
    Leads (ofRules rules).rules request hit ↔
      ∃ before r behind m, rules = before ++ r :: behind ∧ Rule.Foremost request before r behind ∧
        r.survivor? = some (r, m) ∧
        hit = r.compiled (Compilation.nextId (Rule.survivors before).length) m := by
  constructor
  · rintro ⟨before', behind', hlist, happ, hbefore, hbehind⟩
    obtain ⟨before, r, behind, m, rfl, hm, rfl, rfl, rfl⟩ := rules_ofRules_eq_iff.mp hlist
    refine ⟨before, r, behind, m, rfl, ⟨(Rule.compiled_appliesTo_iff hm _).mp happ, ?_, ?_⟩, hm, rfl⟩
    · exact (Rule.forall_numberedFrom_iff (· < r.effectivePriority) _).mp hbefore
    · exact (Rule.forall_numberedFrom_iff (· ≤ r.effectivePriority) _).mp hbehind
  · rintro ⟨before, r, behind, m, rfl, hforemost, hm, rfl⟩
    refine ⟨_, _, rules_ofRules_eq_iff.mpr ⟨before, r, behind, m, rfl, hm, rfl, rfl, rfl⟩,
      (Rule.compiled_appliesTo_iff hm _).mpr hforemost.covers, ?_, ?_⟩
    · exact (Rule.forall_numberedFrom_iff (· < r.effectivePriority) _).mpr hforemost.before_lt
    · exact (Rule.forall_numberedFrom_iff (· ≤ r.effectivePriority) _).mpr hforemost.behind_le

/-- What leads in a compiled set is the answer of the stored rules. -/
theorem leads_ofRules_iff : Leads (ofRules rules).rules request hit ↔ Rule.Answers rules request hit := by
  rw [leads_ofRules_iff_foremost]
  constructor
  · rintro ⟨before, r, behind, m, rfl, hforemost, hm, rfl⟩
    obtain ⟨-, hcompile, -⟩ := Rule.survivor?_eq_some.mp hm
    obtain ⟨htag, hpattern⟩ := Prod.mk.inj (Matcher.key_of_compile hcompile)
    exact ⟨before, r, behind, rfl, hforemost.covers, hforemost.before_lt, hforemost.behind_le,
      rfl, rfl, hcompile, hpattern, htag, rfl, rfl⟩
  · rintro ⟨before, r, behind, rfl, hcovers, hbefore, hbehind, hid, hpriority, hcompile, -, -,
      hresources, hpayload⟩
    obtain ⟨m, hm⟩ := hcovers.exists_survivor
    have hmatcher : hit.matcher = m :=
      Except.ok.inj (hcompile.symm.trans (Rule.survivor?_eq_some.mp hm).2.1)
    refine ⟨before, r, behind, m, rfl, ⟨hcovers, hbefore, hbehind⟩, hm, ?_⟩
    -- field by field, the answer is the compiled rule
    obtain ⟨id, priority, matcher, resources, payload⟩ := hit
    subst hid hpriority hmatcher hresources hpayload
    rfl

theorem evaluate_ofRules_eq_none :
    (ofRules rules).evaluate request = none ↔ ∀ r ∈ rules, ¬ r.Covers request := by
  rw [evaluate_eq_none]
  simp only [← Bool.not_eq_true]
  exact Rule.forall_numberedFrom_iff (fun _ => False) 0

end RuleSet

/-! ### The answer -/

/-- **The compiled set answers as the stored rules are meant to**: with the first rule of greatest
priority among those that cover the request, or not at all where none does.  While the switch is off
nothing is answered. -/
theorem compile_evaluate_iff (rules : List Rule) (request : Request) (now : Instant) :
    (∀ hit, (compile rules true now).ruleSet.evaluate request = some hit ↔
      Rule.Answers rules request hit) ∧
    ((compile rules true now).ruleSet.evaluate request = none ↔ ∀ r ∈ rules, ¬ r.Covers request) ∧
    (compile rules false now).ruleSet.evaluate request = none := by
  have hset : (compile rules true now).ruleSet = .ofRules rules :=
    compileWith_ruleSet MatcherCache.sound_empty rules true now
  rw [hset]
  refine ⟨fun hit => ?_, ?_, rfl⟩
  · rw [RuleSet.evaluate_eq_some, RuleSet.leads_ofRules_iff]
  · rw [RuleSet.evaluate_eq_none]
    simp only [← Bool.not_eq_true]
    exact Rule.forall_numberedFrom_iff (fun _ => False) 0

end ReplyRules
