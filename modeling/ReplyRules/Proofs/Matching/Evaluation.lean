import ReplyRules.Matching.RuleSet
import Mathlib.Data.List.Induction

/-!
Which rule of a set answers a request.  A rule *leads* when it applies, no rule before it applies with a
priority as great, and none behind it with a greater one (`RuleSet.Leads`).  The search for the answer
goes through the rules once and keeps the best one so far, so what leads is followed as rules are put
behind the others (`leads_concat`).

Main results: the answer is the rule that leads (`evaluate_eq_some`), and there is none only where no
rule applies (`evaluate_eq_none`).
-/

namespace ReplyRules.RuleSet

variable {rules : List CompiledRule} {request : Request} {r x : CompiledRule}

/-- Of the rules that apply to the request, the rule is the first with the greatest priority. -/
def Leads (rules : List CompiledRule) (request : Request) (x : CompiledRule) : Prop :=
  ∃ before behind, rules = before ++ x :: behind ∧ x.appliesTo request = true ∧
    (∀ y ∈ before, y.appliesTo request = true → y.priority < x.priority) ∧
    ∀ y ∈ behind, y.appliesTo request = true → y.priority ≤ x.priority

theorem Leads.appliesTo (h : Leads rules request x) : x.appliesTo request = true := by
  obtain ⟨before, behind, -, happ, -⟩ := h
  exact happ

theorem Leads.mem (h : Leads rules request x) : x ∈ rules := by
  obtain ⟨before, behind, rfl, -⟩ := h
  exact List.mem_append_right before List.mem_cons_self

/-- No rule that applies has a greater priority than the one that leads. -/
theorem Leads.le (h : Leads rules request x) {y : CompiledRule} (hy : y ∈ rules)
    (happ : y.appliesTo request = true) : y.priority ≤ x.priority := by
  obtain ⟨before, behind, rfl, -, hbefore, hbehind⟩ := h
  rcases List.mem_append.mp hy with hy | hy
  · exact UInt32.le_of_lt (hbefore y hy happ)
  · rcases List.mem_cons.mp hy with rfl | hy
    · exact UInt32.le_refl _
    · exact hbehind y hy happ

/-- With one more rule, either the same one leads as before and is not passed, or the new one leads
because it passes all others. -/
theorem leads_concat :
    Leads (rules ++ [r]) request x ↔
      (Leads rules request x ∧ (r.appliesTo request = true → r.priority ≤ x.priority)) ∨
        (x = r ∧ r.appliesTo request = true ∧
          ∀ y ∈ rules, y.appliesTo request = true → y.priority < r.priority) := by
  constructor
  · rintro ⟨before, behind, hlist, happ, hbefore, hbehind⟩
    rcases List.eq_nil_or_concat behind with rfl | ⟨behind, r', rfl⟩
    · -- nothing stands behind the one that leads, so it is the new one
      obtain ⟨rfl, hr⟩ := List.append_inj' hlist rfl
      obtain rfl := List.singleton_inj.mp hr
      exact .inr ⟨rfl, happ, hbefore⟩
    · -- the new one stands behind it
      rw [List.concat_eq_append] at hlist hbehind
      rw [← List.cons_append, ← List.append_assoc] at hlist
      obtain ⟨rfl, hr⟩ := List.append_inj' hlist rfl
      obtain rfl := List.singleton_inj.mp hr
      refine .inl ⟨⟨before, behind, rfl, happ, hbefore, fun y hy => ?_⟩, ?_⟩
      · exact hbehind y (List.mem_append_left _ hy)
      · exact hbehind r (List.mem_append_right _ List.mem_cons_self)
  · rintro (⟨⟨before, behind, rfl, happ, hbefore, hbehind⟩, hr⟩ | ⟨rfl, happ, hrules⟩)
    · refine ⟨before, behind ++ [r], ?_, happ, hbefore, fun y hy => ?_⟩
      · rw [List.append_assoc, List.cons_append]
      · rcases List.mem_append.mp hy with hy | hy
        · exact hbehind y hy
        · obtain rfl := List.mem_singleton.mp hy
          exact hr
    · exact ⟨rules, [], rfl, happ, hrules, fun y hy => absurd hy List.not_mem_nil⟩

theorem evaluate_concat :
    evaluate ⟨rules ++ [r]⟩ request =
      if r.appliesTo request then prefer (evaluate ⟨rules⟩ request) r
      else evaluate ⟨rules⟩ request := by
  rw [evaluate, candidates, List.filter_append, List.foldl_append, List.filter_cons, List.filter_nil]
  cases r.appliesTo request <;> rfl

/-- There is an answer as soon as a rule applies. -/
theorem evaluate_eq_none (s : RuleSet) (request : Request) :
    s.evaluate request = none ↔ ∀ y ∈ s.rules, y.appliesTo request = false := by
  obtain ⟨rules⟩ := s
  induction rules using List.reverseRecOn with
  | nil => simp [evaluate, candidates]
  | append_singleton rules r ih =>
    rw [evaluate_concat, List.forall_mem_append, List.forall_mem_singleton, ← ih]
    cases r.appliesTo request with
    | false => simp
    | true =>
      rw [if_pos rfl]
      cases evaluate ⟨rules⟩ request with
      | none => simp [prefer]
      | some b =>
        simp only [prefer]
        split <;> simp

/-- **The answer is the rule that leads.** -/
theorem evaluate_eq_some (s : RuleSet) (request : Request) (x : CompiledRule) :
    s.evaluate request = some x ↔ Leads s.rules request x := by
  obtain ⟨rules⟩ := s
  show evaluate ⟨rules⟩ request = some x ↔ Leads rules request x
  induction rules using List.reverseRecOn generalizing x with
  | nil =>
    constructor
    · intro h
      cases h
    · intro h
      exact absurd h.mem List.not_mem_nil
  | append_singleton rules r ih =>
    rw [evaluate_concat, leads_concat]
    cases happ : r.appliesTo request with
    | false => simp [ih]
    | true =>
      rw [if_pos rfl]
      cases hbest : evaluate ⟨rules⟩ request with
      | none =>
        have hnone := (evaluate_eq_none ⟨rules⟩ request).mp hbest
        constructor
        · intro h
          obtain rfl := Option.some.inj h
          exact .inr ⟨rfl, rfl, fun y hy h => absurd h (by simp [hnone y hy])⟩
        · rintro (⟨h, -⟩ | ⟨rfl, -⟩)
          · exact absurd h.appliesTo (by simp [hnone x h.mem])
          · rfl
      | some b =>
        have hb := (ih b).mp hbest
        have unique (h : Leads rules request x) : b = x :=
          Option.some.inj (hbest.symm.trans ((ih x).mpr h))
        rw [prefer]
        split
        · next hlt =>
          constructor
          · intro h
            obtain rfl := Option.some.inj h
            exact .inr ⟨rfl, rfl, fun y hy happ => UInt32.lt_of_le_of_lt (hb.le hy happ) hlt⟩
          · rintro (⟨h, hle⟩ | ⟨rfl, -⟩)
            · obtain rfl := unique h
              exact absurd hlt (UInt32.not_lt.mpr (hle rfl))
            · rfl
        · next hnlt =>
          constructor
          · intro h
            obtain rfl := Option.some.inj h
            exact .inl ⟨hb, fun _ => UInt32.not_lt.mp hnlt⟩
          · rintro (⟨h, -⟩ | ⟨rfl, -, hall⟩)
            · rw [unique h]
            · exact absurd (hall b hb.mem hb.appliesTo) hnlt

end ReplyRules.RuleSet
