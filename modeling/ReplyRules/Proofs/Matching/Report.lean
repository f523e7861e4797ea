import ReplyRules.Proofs.Matching.Evaluation
import ReplyRules.Proofs.Matching.Numbering

/-!
Reports on requests.  A report is put together from two passes over a set, one for the rules that apply and
one for the answer, and the rules that lose are sieved from the first by the number that the second has
found.  This is sound because rules stand in the order of their numbers
(`RuleSet.Numbered.pairwise_id_lt`): no number occurs twice, so only the winner is sieved out
(`RuleSet.Numbered.shadowed_eq_erase`), and of two rules with one priority, the one with the lower number
stands in front (`RuleSet.Leads.beats`).

Main result: what is told of a request to compiled rules agrees with their answer, and the winner is the
best of those that apply (`explain_compileWith`).
-/

namespace ReplyRules

variable {previous : MatcherCache} {rules : List Rule} {s : RuleSet} {request : Request}
  {hit x y : CompiledRule}

namespace RuleSet

/-! ### Rules in the order of their numbers -/

/-- Rules stand in the order of their numbers. -/
theorem Numbered.pairwise_id_lt (h : s.Numbered) : s.rules.Pairwise fun x y => x.id < y.id := by
  rw [List.pairwise_iff_getElem]
  intro i j hi hj hij
  have hx := h i _ (List.getElem?_eq_getElem hi)
  have hy := h j _ (List.getElem?_eq_getElem hj)
  rw [UInt32.lt_iff_toNat_lt, hx, hy]
  exact Nat.succ_lt_succ hij

/-- What is compiled is numbered, whether the switch is on or off. -/
theorem numbered_compileWith (hp : previous.Sound) (hlength : rules.length < UInt32.size)
    (enabled : Bool) (now : Instant) : (compileWith previous rules enabled now).ruleSet.Numbered := by
  rw [compileWith_ruleSet hp]
  cases enabled with
  | false => exact fun _ _ h => nomatch h
  | true => exact numbered_ofRules hlength

/-- The numbers of the rules that apply go up. -/
theorem Numbered.pairwise_candidates (h : s.Numbered) (request : Request) :
    (s.explain request).candidates.Pairwise (· < ·) :=
  List.pairwise_map.mpr (h.pairwise_id_lt.filter _)

theorem mem_candidates_explain {id : UInt32} :
    id ∈ (s.explain request).candidates ↔ ∃ x ∈ s.rules, x.appliesTo request = true ∧ x.id = id := by
  show id ∈ (s.rules.filter (·.appliesTo request)).map CompiledRule.id ↔ _
  simp only [List.mem_map, List.mem_filter, and_assoc]

/-! ### The winner and the others -/

/-- **What leads is the best of the rules that apply**: any other has a lower priority, or the same one and
a greater number. -/
theorem Leads.beats (h : Leads s.rules request x) (hids : s.rules.Pairwise fun x y => x.id < y.id)
    (hy : y ∈ s.rules) (happ : y.appliesTo request = true) (hne : y.id ≠ x.id) :
    y.priority < x.priority ∨ (y.priority = x.priority ∧ x.id < y.id) := by
  obtain ⟨before, behind, hlist, -, hbefore, hbehind⟩ := h
  rw [hlist] at hy hids
  rcases List.mem_append.mp hy with hy | hy
  · exact .inl (hbefore y hy happ)
  · rcases List.mem_cons.mp hy with rfl | hy
    · exact absurd rfl hne
    · -- behind the one that leads all numbers are greater
      have hid : x.id < y.id := List.rel_of_pairwise_cons (List.pairwise_append.mp hids).2.1 hy
      rcases UInt32.lt_or_eq_of_le (hbehind y hy happ) with hlt | heq
      · exact .inl hlt
      · exact .inr ⟨heq, hid⟩

/-- Since no number occurs twice, only the winner is taken away from the rules that apply. -/
theorem Numbered.shadowed_eq_erase (h : s.Numbered) (heval : s.evaluate request = some hit) :
    (s.explain request).shadowed = (s.explain request).candidates.erase hit.id := by
  have hnodup : (s.explain request).candidates.Nodup :=
    (h.pairwise_candidates request).imp UInt32.ne_of_lt
  have hwinner : (s.explain request).winner = some hit.id := congrArg (Option.map _) heval
  rw [hnodup.erase_eq_filter, MatchReport.shadowed, hwinner]
  rfl

end RuleSet

/-! ### Reports -/

/-- The report names the rule as the one that answers, and the rule is in the set under its number; among
the rules that apply it is the best, and the others are those that lose to it. -/
structure MatchReport.Names (report : MatchReport) (s : RuleSet) (hit : CompiledRule) : Prop where
  winner_eq : report.winner = some hit.id
  mem_candidates : hit.id ∈ report.candidates
  get?_eq : s.get? hit.id = some hit
  beats : ∀ id ∈ report.candidates, id ≠ hit.id → ∃ y, s.get? id = some y ∧
    (y.priority < hit.priority ∨ (y.priority = hit.priority ∧ hit.id < id))
  shadowed_eq : report.shadowed = report.candidates.erase hit.id
  length_shadowed : report.shadowed.length + 1 = report.candidates.length

namespace RuleSet

theorem Numbered.names (h : s.Numbered) (heval : s.evaluate request = some hit) :
    (s.explain request).Names s hit := by
  have hleads : Leads s.rules request hit := (evaluate_eq_some s request hit).mp heval
  have hmem : hit.id ∈ (s.explain request).candidates :=
    mem_candidates_explain.mpr ⟨hit, hleads.mem, hleads.appliesTo, rfl⟩
  have hshadowed := h.shadowed_eq_erase heval
  refine ⟨congrArg (Option.map _) heval, hmem, h.get?_eq_some_iff.mpr ⟨hleads.mem, rfl⟩, ?_, hshadowed, ?_⟩
  · intro id hid hne
    obtain ⟨y, hy, happ, rfl⟩ := mem_candidates_explain.mp hid
    exact ⟨y, h.get?_eq_some_iff.mpr ⟨hy, rfl⟩, hleads.beats h.pairwise_id_lt hy happ hne⟩
  · rw [hshadowed, List.length_erase_of_mem hmem]
    exact Nat.sub_add_cancel (List.length_pos_of_mem hmem)

/-- Where no rule answers, none applies. -/
theorem candidates_eq_nil_iff : (s.explain request).candidates = [] ↔ s.evaluate request = none := by
  show (s.rules.filter (·.appliesTo request)).map CompiledRule.id = [] ↔ _
  rw [List.map_eq_nil_iff, List.filter_eq_nil_iff, evaluate_eq_none]
  simp only [Bool.not_eq_true]

end RuleSet

/-- **A report agrees with the answer.**  With a sound cache and fewer rules than there are numbers, the
report on a request to the compiled set lists the numbers of exactly the rules that apply, in their order.
It names a winner if and only if a rule applies; then it is the rule that answers, it is the best of those
listed, and the others are those that lose. -/
theorem explain_compileWith (hp : previous.Sound) (hlength : rules.length < UInt32.size)
    (enabled : Bool) (now : Instant) (request : Request) :
    let s := (compileWith previous rules enabled now).ruleSet
    let report := s.explain request
    (∀ id, id ∈ report.candidates ↔ ∃ x ∈ s.rules, x.appliesTo request = true ∧ x.id = id) ∧
    report.candidates.Pairwise (· < ·) ∧
    report.winner = (s.evaluate request).map CompiledRule.id ∧
    (report.winner = none ↔ report.candidates = []) ∧
    (∀ hit, s.evaluate request = some hit → report.Names s hit) ∧
    (s.evaluate request = none → report.shadowed = []) := by
  intro s report
  have hnumbered : s.Numbered := RuleSet.numbered_compileWith hp hlength enabled now
  refine ⟨fun id => RuleSet.mem_candidates_explain, hnumbered.pairwise_candidates request, rfl, ?_,
    fun hit heval => hnumbered.names heval, fun hnone => ?_⟩
  · rw [RuleSet.candidates_eq_nil_iff]
    exact Option.map_eq_none_iff
  · rw [MatchReport.shadowed, RuleSet.candidates_eq_nil_iff.mpr hnone]
    rfl

/-- Of three rules that apply, the second and the third have the same priority; the first one has a lower
priority, and one that is switched off has no number. -/
theorem explain_compileWith_of_tie :
    let rule (priority : UInt32) (enabled : Bool) : Rule :=
      { (default : Rule) with
        urlPattern := "*", tag := .urlFilter, responseContent := "x", priority := priority,
        enabled := enabled }
    let s := (compileWith .empty [rule 1 true, rule 9 false, rule 2 true, rule 2 true] true .epoch).ruleSet
    let report := s.explain (.document "https://a")
    ∃ hit, s.evaluate (.document "https://a") = some hit ∧ hit.id = 2 ∧ report.Names s hit ∧
      report.candidates = [1, 2, 3] ∧ report.shadowed = [1, 3] := by
  intro rule s report
  obtain ⟨hit, hhit, hid⟩ : ∃ hit, s.evaluate (.document "https://a") = some hit ∧ hit.id = 2 := by
    have hwinner : (s.evaluate (.document "https://a")).map CompiledRule.id = some 2 := by
      decide +kernel
    exact Option.map_eq_some_iff.mp hwinner
  have hcandidates : report.candidates = [1, 2, 3] := by decide +kernel
  have hlength : [rule 1 true, rule 9 false, rule 2 true, rule 2 true].length < UInt32.size := by decide
  obtain ⟨-, -, -, -, hnames, -⟩ :=
    explain_compileWith MatcherCache.sound_empty hlength true .epoch (.document "https://a")
  refine ⟨hit, hhit, hid, hnames hit hhit, hcandidates, ?_⟩
  rw [(hnames hit hhit).shadowed_eq, hcandidates, hid]
  rfl

end ReplyRules
