import ReplyRules.Proofs.Engine.Frame
import ReplyRules.Proofs.Matching.Answer
import ReplyRules.Proofs.Matching.Filter

/-!
Changes that leave an answer as it is.  The rule that answers a request is the foremost one: it covers the
request, no rule before it does so with a priority as great, and none behind it with a greater one.  Of the
list it stands in, only these two things count, so it answers in any other list in which they hold of it,
and the answer is the same but for its number (`Rule.Foremost.answer_eq`).

Where rules are taken out or switched off, those that cover the request are among those that did before, and
stand on the same side of the foremost one (`Edit.Thins`).  Where rules are put behind the others, they stand
behind the foremost one, and only a greater priority would put them first (`Rule.Harmless`).

Main result: as long as the rule that answers is not named, taking out and switching off leave the answer as
it is; and so do new rules that are not compiled, do not apply, or have no greater priority
(`Edit.answering_place_spec`).
-/

namespace ReplyRules

variable {now earlier : Instant} {request : Request} {w q : Rule} {m : Matcher} {hit : CompiledRule}
  {rules rules' before before' behind behind' : List Rule} {indices : List Nat} {edit : Edit}

/-- A compiled rule but for its number. -/
def CompiledRule.unnumbered (x : CompiledRule) : CompiledRule := { x with id := 0 }

namespace Rule

/-! ### The rule that answers -/

/-- The rule at the place is the one that answers. -/
def AnswersAt (rules : List Rule) (request : Request) (place : Nat) : Prop :=
  ∃ before w behind, rules = before ++ w :: behind ∧ before.length = place ∧
    Foremost request before w behind

/-- The compiled rule that answers, but for its number. -/
def answer (rules : List Rule) (request : Request) (now : Instant) : Option CompiledRule :=
  ((compile rules true now).ruleSet.evaluate request).map CompiledRule.unnumbered

theorem compile_ruleSet (rules : List Rule) (now : Instant) :
    (compile rules true now).ruleSet = .ofRules rules :=
  compileWith_ruleSet MatcherCache.sound_empty rules true now

/-- **What answers is the foremost rule**, compiled. -/
theorem evaluate_compile_eq_some_iff :
    (compile rules true now).ruleSet.evaluate request = some hit ↔
      ∃ before w behind m, rules = before ++ w :: behind ∧ Foremost request before w behind ∧
        w.survivor? = some (w, m) ∧
        hit = w.compiled (Compilation.nextId (survivors before).length) m := by
  rw [compile_ruleSet, RuleSet.evaluate_eq_some, RuleSet.leads_ofRules_iff_foremost]

theorem evaluate_compile_eq_none_iff :
    (compile rules true now).ruleSet.evaluate request = none ↔ ∀ r ∈ rules, ¬ r.Covers request := by
  rw [compile_ruleSet, RuleSet.evaluate_ofRules_eq_none]

theorem answer_eq_none_iff : answer rules request now = none ↔ ∀ r ∈ rules, ¬ r.Covers request := by
  rw [answer, Option.map_eq_none_iff, evaluate_compile_eq_none_iff]

/-- The answer depends on no rule but the foremost. -/
theorem Foremost.answer_eq_some (h : Foremost request before w behind) (hm : w.survivor? = some (w, m)) :
    answer (before ++ w :: behind) request now = some (w.compiled 0 m) := by
  rw [answer, evaluate_compile_eq_some_iff.mpr ⟨before, w, behind, m, rfl, h, hm, rfl⟩]
  rfl

/-- **Among other rules, the same rule gives the same answer.** -/
theorem Foremost.answer_eq (h : Foremost request before w behind) (h' : Foremost request before' w behind') :
    answer (before' ++ w :: behind') request now = answer (before ++ w :: behind) request earlier := by
  obtain ⟨m, hm⟩ := h.covers.exists_survivor
  rw [h.answer_eq_some hm, h'.answer_eq_some hm]

/-- Either no rule covers the request, or there is a foremost one. -/
theorem foremost_or_none (rules : List Rule) (request : Request) :
    (∀ r ∈ rules, ¬ r.Covers request) ∨
      ∃ before w behind, rules = before ++ w :: behind ∧ Foremost request before w behind := by
  cases hevaluate : (compile rules true .epoch).ruleSet.evaluate request with
  | none => exact .inl (evaluate_compile_eq_none_iff.mp hevaluate)
  | some hit =>
    obtain ⟨before, w, behind, m, hrules, hforemost, -⟩ := evaluate_compile_eq_some_iff.mp hevaluate
    exact .inr ⟨before, w, behind, hrules, hforemost⟩

/-- Of two rules, only one is the foremost: the first one, unless the other has a greater priority. -/
theorem Foremost.not_behind {between : List Rule} (h : Foremost request before w (between ++ q :: behind)) :
    ¬ Foremost request (before ++ w :: between) q behind := by
  intro h'
  have hlt := h'.before_lt w (List.mem_append_right before List.mem_cons_self) h.covers
  have hle := h.behind_le q (List.mem_append_right between List.mem_cons_self) h'.covers
  exact UInt32.not_lt.mpr hle hlt

theorem AnswersAt.unique {place place' : Nat} (h : AnswersAt rules request place)
    (h' : AnswersAt rules request place') : place = place' := by
  obtain ⟨before, w, behind, rfl, rfl, hforemost⟩ := h
  obtain ⟨before', w', behind', hsplit, rfl, hforemost'⟩ := h'
  -- what stands between the two places begins with the first of the two rules, unless it is nothing
  rcases List.append_eq_append_iff.mp hsplit with ⟨between, rfl, hrest⟩ | ⟨between, rfl, hrest⟩
  · cases between with
    | nil => rw [List.append_nil]
    | cons x between =>
      obtain ⟨rfl, rfl⟩ := List.cons.inj hrest
      exact absurd hforemost' hforemost.not_behind
  · cases between with
    | nil => rw [List.append_nil]
    | cons x between =>
      obtain ⟨rfl, rfl⟩ := List.cons.inj hrest
      exact absurd hforemost hforemost'.not_behind

/-- **The rule at the place that answers** is the one that the answer has been compiled from. -/
theorem evaluate_compile_eq_some_iff_answersAt :
    (compile rules true now).ruleSet.evaluate request = some hit ↔
      ∃ place w m, AnswersAt rules request place ∧ rules[place]? = some w ∧
        Matcher.compile w.urlPattern w.tag = .ok m ∧
        hit = w.compiled (Compilation.nextId (survivors (rules.take place)).length) m := by
  rw [evaluate_compile_eq_some_iff]
  constructor
  · rintro ⟨before, w, behind, m, rfl, hforemost, hm, rfl⟩
    refine ⟨before.length, w, m, ⟨before, w, behind, rfl, rfl, hforemost⟩, ?_,
      (survivor?_eq_some.mp hm).2.1, ?_⟩
    · rw [List.getElem?_append_right (Nat.le_refl _), Nat.sub_self]
      rfl
    · rw [List.take_left]
  · rintro ⟨_, w, m, ⟨before, w', behind, rfl, rfl, hforemost⟩, hw, hm, rfl⟩
    obtain rfl : w' = w := by
      rw [List.getElem?_append_right (Nat.le_refl _), Nat.sub_self] at hw
      exact Option.some.inj hw
    obtain ⟨m', hm'⟩ := hforemost.covers.exists_survivor
    obtain rfl : m' = m := Except.ok.inj ((survivor?_eq_some.mp hm').2.1.symm.trans hm)
    refine ⟨before, w', behind, m', rfl, hforemost, hm', ?_⟩
    rw [List.take_left]

/-! ### New rules -/

/-- Behind the given rules, the rule takes no answer from them: it is not compiled, or it does not apply, or
there is an answer, and the rule has no greater priority. -/
def Harmless (rules : List Rule) (request : Request) (now : Instant) (q : Rule) : Prop :=
  q.survivor? = none ∨
    (∀ m id, Matcher.compile q.urlPattern q.tag = .ok m → (q.compiled id m).appliesTo request = false) ∨
    ∃ hit, (compile rules true now).ruleSet.evaluate request = some hit ∧ q.effectivePriority ≤ hit.priority

/-- Where a rule covers a request and is harmless, there is an answer with a priority as great. -/
theorem Harmless.le_of_covers (h : Harmless rules request now q) (hcovers : q.Covers request) :
    ∃ hit, (compile rules true now).ruleSet.evaluate request = some hit ∧
      q.effectivePriority ≤ hit.priority := by
  obtain ⟨m, hm⟩ := hcovers.exists_survivor
  rcases h with hnone | hmisses | hle
  · rw [hnone] at hm
    cases hm
  · have happlies := (compiled_appliesTo_iff hm 0).mpr hcovers
    rw [hmisses m 0 (survivor?_eq_some.mp hm).2.1] at happlies
    cases happlies
  · exact hle

/-- **New rules that are harmless leave the answer as it is.** -/
theorem answer_append {appended : List Rule} (h : ∀ q ∈ appended, Harmless rules request earlier q) :
    answer (rules ++ appended) request now = answer rules request earlier := by
  rcases foremost_or_none rules request with hnone | ⟨before, w, behind, rfl, hforemost⟩
  · rw [answer_eq_none_iff.mpr hnone, answer_eq_none_iff, List.forall_mem_append]
    refine ⟨hnone, fun q hq hcovers => ?_⟩
    obtain ⟨hit, hhit, -⟩ := (h q hq).le_of_covers hcovers
    rw [evaluate_compile_eq_none_iff.mpr hnone] at hhit
    cases hhit
  · -- the new rules stand behind the foremost one, where a priority as great does no harm
    have hbehind : ∀ q ∈ behind ++ appended, q.Covers request →
        q.effectivePriority ≤ w.effectivePriority := by
      refine List.forall_mem_append.mpr ⟨hforemost.behind_le, fun q hq hcovers => ?_⟩
      obtain ⟨hit, hhit, hle⟩ := (h q hq).le_of_covers hcovers
      obtain ⟨m, hm⟩ := hforemost.covers.exists_survivor
      rw [evaluate_compile_eq_some_iff.mpr ⟨before, w, behind, m, rfl, hforemost, hm, rfl⟩] at hhit
      cases hhit
      exact hle
    rw [List.append_assoc, List.cons_append]
    exact hforemost.answer_eq ⟨hforemost.covers, hforemost.before_lt, hbehind⟩

end Rule

/-! ### Taking out and switching off -/

namespace Edit

/-- What covers the request did so before, and stands on the same side of each rule that is not named. -/
structure Thins (request : Request) (indices : List Nat) (rules rules' : List Rule) : Prop where
  mem : ∀ q ∈ rules', q.Covers request → q ∈ rules
  split : ∀ before w behind, rules = before ++ w :: behind → before.length ∉ indices →
    ∃ before' behind', rules' = before' ++ w :: behind' ∧
      (∀ q ∈ before', q.Covers request → q ∈ before) ∧ ∀ q ∈ behind', q.Covers request → q ∈ behind

theorem thins_without (request : Request) (indices : List Nat) (rules : List Rule) :
    Thins request indices rules (without rules indices) where
  mem := fun q hq _ => (withoutFrom_sublist 0 rules indices).subset hq
  split := by
    rintro before w behind rfl hplace
    refine ⟨withoutFrom 0 before indices, withoutFrom (before.length + 1) behind indices, ?_,
      fun q hq _ => (withoutFrom_sublist _ _ _).subset hq,
      fun q hq _ => (withoutFrom_sublist _ _ _).subset hq⟩
    rw [without, withoutFrom_append, withoutFrom_cons, Nat.zero_add, if_neg hplace]

/-- Rules that are switched off cover nothing. -/
theorem mem_of_mem_mapIdx_off {p : Nat → Prop} [DecidablePred p]
    (h : q ∈ rules.mapIdx fun place r => if p place then { r with enabled := false } else r)
    (hcovers : q.Covers request) : q ∈ rules := by
  obtain ⟨place, hplace, rfl⟩ := List.mem_mapIdx.mp h
  split at hcovers
  · cases hcovers.enabled
  · next hp =>
    rw [if_neg hp]
    exact List.getElem_mem hplace

theorem thins_switchAll (request : Request) (indices : List Nat) (rules : List Rule) :
    Thins request indices rules (switchAll rules indices false) where
  mem := by
    intro q hq hcovers
    rw [switchAll_eq_mapIdx] at hq
    exact mem_of_mem_mapIdx_off hq hcovers
  split := by
    rintro before w behind rfl hplace
    refine ⟨before.mapIdx fun place r => if place ∈ indices then { r with enabled := false } else r,
      behind.mapIdx fun place r =>
        if place + 1 + before.length ∈ indices then { r with enabled := false } else r, ?_,
      fun q hq => mem_of_mem_mapIdx_off hq, fun q hq => mem_of_mem_mapIdx_off hq⟩
    rw [switchAll_eq_mapIdx, List.mapIdx_append, List.mapIdx_cons, Nat.zero_add, if_neg hplace]

/-- The foremost rule stays the foremost one, and where there is none, none comes up. -/
theorem Thins.answer_eq (h : Thins request indices rules rules')
    (hplace : ∀ place, Rule.AnswersAt rules request place → place ∉ indices) :
    Rule.answer rules' request now = Rule.answer rules request earlier := by
  rcases Rule.foremost_or_none rules request with hnone | ⟨before, w, behind, hrules, hforemost⟩
  · rw [Rule.answer_eq_none_iff.mpr hnone, Rule.answer_eq_none_iff]
    exact fun q hq hcovers => hnone q (h.mem q hq hcovers) hcovers
  · have hunnamed := hplace _ ⟨before, w, behind, hrules, rfl, hforemost⟩
    obtain ⟨before', behind', rfl, hbefore, hbehind⟩ := h.split before w behind hrules hunnamed
    rw [hrules]
    -- what covers the request now stood on the same side before, where the foremost rule was compared with it
    refine hforemost.answer_eq ⟨hforemost.covers, fun q hq hcovers => ?_, fun q hq hcovers => ?_⟩
    · exact hforemost.before_lt q (hbefore q hq hcovers) hcovers
    · exact hforemost.behind_le q (hbehind q hq hcovers) hcovers

/-! ### Whole changes -/

/-- Taking out and switching off are made, and thin the rules. -/
theorem exists_thins (hedit : edit = deleteMany indices ∨ edit = setEnabled indices false)
    (hrange : ∀ i ∈ indices, i < rules.length) (request : Request) :
    ∃ rules', edit.apply now rules = .ok rules' ∧ Thins request indices rules rules' := by
  rcases hedit with rfl | rfl
  · refine ⟨_, apply_eq_ok_iff.mpr ⟨hrange, rfl⟩, ?_⟩
    rw [eraseAll_eq_without]
    exact thins_without request indices rules
  · exact ⟨_, apply_eq_ok_iff.mpr ⟨hrange, rfl⟩, thins_switchAll request indices rules⟩

/-- **Taking out and switching off** leave the answer as it is, where the rule that answers is not named. -/
theorem exists_apply_answer_eq (hedit : edit = deleteMany indices ∨ edit = setEnabled indices false)
    (hrange : ∀ i ∈ indices, i < rules.length)
    (hplace : ∀ place, Rule.AnswersAt rules request place → place ∉ indices) :
    ∃ rules', edit.apply now rules = .ok rules' ∧
      Rule.answer rules' request now = Rule.answer rules request earlier := by
  obtain ⟨rules', happly, hthins⟩ := exists_thins hedit hrange request
  exact ⟨rules', happly, hthins.answer_eq hplace⟩

/-- The change puts rules behind the others. -/
def Appends : Edit → Prop
  | add _ => True
  | duplicate _ => True
  | importRules _ => True
  | _ => False

theorem Appends.exists_append (hedit : edit.Appends) (happly : edit.apply now rules = .ok rules') :
    ∃ appended, rules' = rules ++ appended := by
  have hgives := apply_eq_ok_iff.mp happly
  cases edit with
  | add input =>
    obtain ⟨r, -, hrules'⟩ := hgives
    exact ⟨_, hrules'⟩
  | duplicate index =>
    obtain ⟨r, -, hrules'⟩ := hgives
    exact ⟨_, hrules'⟩
  | importRules imported => exact ⟨_, hgives⟩
  | replace _ | update _ _ | delete _ | deleteMany _ | setEnabled _ _ => exact hedit.elim

/-- **New rules** leave the answer as it is, where all of them are harmless. -/
theorem Appends.exists_answer_eq (hedit : edit.Appends) (happly : edit.apply now rules = .ok rules') :
    ∃ appended, rules' = rules ++ appended ∧
      ((∀ q ∈ appended, Rule.Harmless rules request earlier q) →
        Rule.answer rules' request now = Rule.answer rules request earlier) := by
  obtain ⟨appended, rfl⟩ := hedit.exists_append happly
  exact ⟨appended, rfl, Rule.answer_append⟩

/-- **Changes do not disturb what they do not concern.**  The answer to a request is compiled from the rule
at one place of the list.  Rules at any other places can be taken out or switched off, and new rules that are
not compiled, do not apply, or have no greater priority can be put behind the others; the answer stays what
it is but for its number, and where there is none there is none. -/
theorem answering_place_spec (rules : List Rule) (request : Request) (earlier now : Instant) :
    (∀ hit, (compile rules true earlier).ruleSet.evaluate request = some hit ↔
      ∃ place w m, Rule.AnswersAt rules request place ∧ rules[place]? = some w ∧
        Matcher.compile w.urlPattern w.tag = .ok m ∧
        hit = w.compiled (Compilation.nextId (Rule.survivors (rules.take place)).length) m) ∧
    (∀ place place', Rule.AnswersAt rules request place → Rule.AnswersAt rules request place' →
      place = place') ∧
    (∀ (edit : Edit) (indices : List Nat),
      edit = deleteMany indices ∨ edit = setEnabled indices false →
      (∀ i ∈ indices, i < rules.length) → (∀ place, Rule.AnswersAt rules request place → place ∉ indices) →
      ∃ rules', edit.apply now rules = .ok rules' ∧
        Rule.answer rules' request now = Rule.answer rules request earlier) ∧
    ∀ (edit : Edit) (rules' : List Rule), edit.Appends → edit.apply now rules = .ok rules' →
      ∃ appended, rules' = rules ++ appended ∧
        ((∀ q ∈ appended, Rule.Harmless rules request earlier q) →
          Rule.answer rules' request now = Rule.answer rules request earlier) :=
  ⟨fun _ => Rule.evaluate_compile_eq_some_iff_answersAt, fun _ _ => Rule.AnswersAt.unique,
    fun _ _ => exists_apply_answer_eq, fun _ _ => Appends.exists_answer_eq⟩

/-- The second of three rules answers: the first one is switched off, and the third one has no greater
priority.  These two can go, or be switched off, and the third one can be copied. -/
theorem answering_place_with_equal_priority :
    let filter (pattern : String) (priority : UInt32) (enabled : Bool) : Rule :=
      { (default : Rule) with
        urlPattern := pattern
        tag := .urlFilter
        responseContent := "x"
        priority := priority
        enabled := enabled }
    let rules := [filter "*" 9 false, filter "*a*" 2 true, filter "*" 2 true]
    let request : Request := ⟨"https://a", .mainFrame⟩
    let answer := Rule.answer rules request .epoch
    Rule.AnswersAt rules request 1 ∧
      (∃ rules', (deleteMany [2, 0]).apply .epoch rules = .ok rules' ∧
        Rule.answer rules' request .epoch = answer) ∧
      (∃ rules', (setEnabled [0, 2] false).apply .epoch rules = .ok rules' ∧
        Rule.answer rules' request .epoch = answer) ∧
      ∃ rules', (duplicate 2).apply .epoch rules = .ok rules' ∧
        Rule.answer rules' request .epoch = answer := by
  intro filter rules request answer
  obtain ⟨m, hm⟩ : ∃ m, Matcher.compile "*a*" .urlFilter = .ok m := by
    have hfits : (Matcher.filterExpr "*a*".toList).fits = true := by decide +kernel
    exact ⟨_, (Matcher.compile_urlFilter "*a*").trans (if_pos hfits)⟩
  have haccepts : m.accepts "https://a" = true := by
    show m.regex.isMatch "https://a" = true
    rw [Matcher.regex_of_compile_urlFilter hm]
    exact (Matcher.isIn_filterExpr "*a*".toList "https://a".toList).mpr (by decide +kernel)
  have hforemost : Rule.Foremost request [filter "*" 9 false] (filter "*a*" 2 true) [filter "*" 2 true] := by
    refine ⟨⟨rfl, by decide, by decide, ⟨m, hm, haccepts⟩, nofun⟩, ?_, ?_⟩
    · exact List.forall_mem_singleton.mpr fun hcovers => nomatch hcovers.enabled
    · exact List.forall_mem_singleton.mpr fun _ => by decide
  have hanswers : Rule.AnswersAt rules request 1 := ⟨_, _, _, rfl, rfl, hforemost⟩
  obtain ⟨hevaluate, hunique, hthins, happends⟩ := answering_place_spec rules request .epoch .epoch
  have hplace (indices : List Nat) (h : 1 ∉ indices) :
      ∀ place, Rule.AnswersAt rules request place → place ∉ indices := by
    intro place hplace
    rwa [hunique place 1 hplace hanswers]
  refine ⟨hanswers, ?_, ?_, ?_⟩
  · exact hthins _ [2, 0] (.inl rfl) (by decide) (hplace _ (by decide))
  · exact hthins _ [0, 2] (.inr rfl) (by decide) (hplace _ (by decide))
  · have happly : (duplicate 2).apply .epoch rules = .ok (rules ++ [(filter "*" 2 true).copy .epoch]) := rfl
    obtain ⟨appended, happended, hkept⟩ := happends (duplicate 2) _ trivial happly
    refine ⟨_, happly, hkept ?_⟩
    rw [← List.append_cancel_left happended]
    have hhit := (hevaluate _).mpr ⟨1, filter "*a*" 2 true, m, hanswers, rfl, hm, rfl⟩
    exact List.forall_mem_singleton.mpr (.inr (.inr ⟨_, hhit, UInt32.le_refl _⟩))

end Edit

end ReplyRules
