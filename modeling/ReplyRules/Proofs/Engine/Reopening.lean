import ReplyRules.Proofs.Engine.Frame
import ReplyRules.Proofs.Rule.Exchange
import ReplyRules.Proofs.Store.RuleBook
import ReplyRules.Proofs.Text.Blank

/-!
Rules that are opened in a form and saved as they are.  What comes from a form is *tidy*: it tells the kind
of its pattern, which is stored as this kind asks, there is no white space around what has been entered, no
empty list of kinds, and no priority of zero (`Rule.Tidy`, `Rule.tidy_of_validate`).  The form of a tidy rule
is filled in with what it was made from, so saving it gives the rule again (`Rule.Tidy.revise_toInput`).

A tidy rule stays tidy when it is switched, copied, stored and loaded, or written to a document and taken
from it (`Rule.Becomes.tidy`).  Other rules may change when they are saved for the first time, but what is
saved is tidy.

Main result: saving a rule as it was opened changes nothing but the time of the change, for all rules that
have come from a form, whatever has become of them, and for all others from the second time on
(`Rule.revise_toInput_unchanged`).
-/

namespace ReplyRules.Rule

variable {input : RuleInput} {r q : Rule} {kind : MatchType} {now : Instant} {note : String}

/-! ### Tidy rules -/

/-- The rule is as it comes from a form with a pattern of the given kind. -/
structure Tidy (r : Rule) (kind : MatchType) : Prop where
  patternKind_eq : r.patternKind = some kind
  tag_eq : r.tag = kind.tag
  urlPattern_eq : r.urlPattern = kind.transport r.originalPattern
  trim_pattern : Text.trim r.originalPattern = r.originalPattern
  pattern_ne : r.originalPattern ≠ ""
  content_ne : r.responseContent ≠ ""
  compiles : kind = .regex → ∃ regex, Regex.compile r.originalPattern = .ok regex
  kinds_ne : r.resourceTypes ≠ some []
  priority_eq : max r.priority 1 = r.priority
  trim_note : Text.trim r.note = r.note

theorem tidy_of_validate (h : input.validate now = .ok r) : r.Tidy input.matchType := by
  obtain ⟨hcheck, rfl⟩ := RuleInput.validate_eq_ok_iff.mp h
  obtain ⟨hpattern, hcontent, hregex⟩ := RuleInput.check_eq_ok_iff.mp hcheck
  refine ⟨rfl, rfl, rfl, Text.trim_trim _, hpattern, hcontent, hregex, ?_,
    max_one_max_one input.priority, Text.trim_trim _⟩
  show (if input.resourceTypes.isEmpty then none else some input.resourceTypes) ≠ some []
  split
  · exact nofun
  · next hkinds => simpa using hkinds

/-- Of a tidy rule, all that is not entered may change, and so may the type, and the note to another one
without white space at its ends. -/
theorem Tidy.change (h : r.Tidy kind) (hnote : Text.trim note = note) (responseType : ResponseType)
    (enabled : Bool) (createdAt updatedAt : Instant) :
    Tidy { r with
      responseType := responseType
      enabled := enabled
      note := note
      createdAt := createdAt
      updatedAt := updatedAt } kind :=
  { h with trim_note := hnote }

/-- The form of a tidy rule shows what has been entered. -/
theorem Tidy.toInput_eq (h : r.Tidy kind) :
    r.toInput = ⟨r.originalPattern, r.responseContent, kind, r.responseType, r.resourceTypes.getD [],
      r.priority, r.note⟩ := by
  have hpattern : r.shownPattern = r.originalPattern := if_neg h.pattern_ne
  have hkind : r.shownMatchType = kind := by
    rw [shownMatchType, h.patternKind_eq]
    exact if_neg h.pattern_ne
  rw [toInput, hpattern, hkind, effectivePriority, h.priority_eq]

/-- An empty list of kinds is stored as none, and none is shown as an empty list. -/
theorem Tidy.listed_eq (h : r.Tidy kind) :
    (if (r.resourceTypes.getD []).isEmpty then none else some (r.resourceTypes.getD [])) =
      r.resourceTypes := by
  have hne := h.kinds_ne
  cases hkinds : r.resourceTypes with
  | none => rfl
  | some kinds =>
    cases kinds with
    | nil => exact absurd hkinds hne
    | cons kind kinds => rfl

/-- **A tidy rule that is saved as it was opened stays what it is.** -/
theorem Tidy.revise_toInput (h : r.Tidy kind) (now : Instant) :
    r.revise r.toInput now = .ok { r with updatedAt := now } := by
  have hvalidate : r.toInput.validate now = .ok (r.toInput.toRule r.originalPattern now) := by
    rw [RuleInput.validate_eq_ok_iff, h.toInput_eq, h.trim_pattern, RuleInput.check_eq_ok_iff]
    exact ⟨⟨h.pattern_ne, h.content_ne, h.compiles⟩, rfl⟩
  refine revise_eq_ok_iff.mpr ⟨_, hvalidate, ?_⟩
  rw [h.toInput_eq, RuleInput.toRule]
  simp only [h.trim_note, h.priority_eq, h.listed_eq, ← h.urlPattern_eq, ← h.tag_eq, ← h.patternKind_eq]

/-- What is saved is tidy, whatever the rule was before. -/
theorem tidy_of_revise (h : r.revise input now = .ok q) : q.Tidy input.matchType := by
  obtain ⟨entered, hentered, rfl⟩ := revise_eq_ok_iff.mp h
  have htidy := tidy_of_validate hentered
  exact htidy.change htidy.trim_note _ _ _ _

/-! ### What becomes of a rule -/

/-- The note of a copy has no white space at its ends, if the note that it is made from has none. -/
theorem trim_copyNote (h : Text.trim note = note) : Text.trim (copyNote note) = copyNote note := by
  rw [copyNote]
  split
  · decide +kernel
  · next hne =>
    rw [Text.trim_eq_self_iff, String.toList_append]
    have hlast : " (copy)".toList.getLast? = some ')' := by decide +kernel
    refine (Text.trim_eq_self_iff.mp h).append (by simpa using hne) (by simp) fun c hc => ?_
    obtain rfl := Option.some.inj (hlast.symm.trans hc)
    rfl

theorem Tidy.retold (h : r.Tidy kind) : r.retold.Tidy kind := h.change h.trim_note _ _ _ _

/-- What a rule becomes when it is switched, copied, stored and loaded, or written to a document and taken
from it, together with any others, at any times and as often as one likes. -/
inductive Becomes (r : Rule) : Rule → Prop where
  | stays : Becomes r r
  | switched {q q' : Rule} {rules rules' : List Rule} {indices : List Nat} {flag : Bool} {now : Instant}
      {place : Nat} (h : Becomes r q) (hq : rules[place]? = some q)
      (happly : (Edit.setEnabled indices flag).apply now rules = .ok rules')
      (hq' : rules'[place]? = some q') : Becomes r q'
  | copied {q q' : Rule} {rules rules' : List Rule} {now : Instant} {place : Nat} (h : Becomes r q)
      (hq : rules[place]? = some q) (happly : (Edit.duplicate place).apply now rules = .ok rules')
      (hq' : rules'.getLast? = some q') : Becomes r q'
  | loaded {q q' : Rule} {b b' : RuleBook} {now : Instant} {place : Nat} (h : Becomes r q)
      (hq : b.rules[place]? = some q) (hload : RuleBook.ofText now b.toText = .ok b')
      (hq' : b'.rules[place]? = some q') : Becomes r q'
  | imported {q q' : Rule} {rules rules' : List Rule} {now : Instant} {place : Nat} (h : Becomes r q)
      (hq : (complete rules)[place]? = some q) (himport : ofDocument now (exportText rules) = .ok rules')
      (hq' : rules'[place]? = some q') : Becomes r q'

/-- **A tidy rule stays tidy**, whatever becomes of it. -/
theorem Becomes.tidy (h : r.Becomes q) (hr : r.Tidy kind) : q.Tidy kind := by
  induction h with
  | stays => exact hr
  | @switched q q' rules rules' indices flag now place h hq happly hq' ih =>
    obtain ⟨-, rfl⟩ := Edit.apply_eq_ok_iff.mp happly
    rw [Edit.getElem?_switchAll, hq, Option.map_some, Option.some.injEq] at hq'
    split at hq'
    · obtain rfl := hq'
      exact ih.change ih.trim_note _ _ _ _
    · rwa [← hq']
  | @copied q q' rules rules' now place h hq happly hq' ih =>
    obtain ⟨source, hsource, rfl⟩ := Edit.apply_eq_ok_iff.mp happly
    obtain rfl := Option.some.inj (hq.symm.trans hsource)
    rw [List.getLast?_concat, Option.some.injEq] at hq'
    obtain rfl := hq'
    exact ih.change (trim_copyNote ih.trim_note) _ _ _ _
  | @loaded q q' b b' now place h hq hload hq' ih =>
    obtain rfl := Except.ok.inj ((RuleBook.ofBytes_toText_eq_retold b now).symm.trans hload)
    rw [RuleBook.retold, List.getElem?_map, hq, Option.map_some, Option.some.injEq] at hq'
    obtain rfl := hq'
    exact ih.retold
  | @imported q q' rules rules' now place h hq himport hq' ih =>
    obtain rfl := Except.ok.inj ((ofDocument_exportText_eq_retold rules now).symm.trans himport)
    rw [List.getElem?_map, hq, Option.map_some, Option.some.injEq] at hq'
    obtain rfl := hq'
    exact ih.retold

/-! ### Saving what was opened -/

/-- **Saving a rule as it was opened changes nothing** but the time of the change.  This holds of what is
made of an accepted input, whatever has become of it; and of any other rule it holds from the second time
on, if it can be saved at all. -/
theorem revise_toInput_unchanged :
    (∀ (input : RuleInput) (entered : Instant) (r q : Rule), input.validate entered = .ok r → r.Becomes q →
      ∀ now, q.revise q.toInput now = .ok { q with updatedAt := now }) ∧
    ∀ (r s : Rule) (first : Instant), r.revise r.toInput first = .ok s →
      ∀ now, s.revise s.toInput now = .ok { s with updatedAt := now } := by
  refine ⟨fun input entered r q hr hbecomes now => ?_, fun r s first hs now => ?_⟩
  · exact (hbecomes.tidy (tidy_of_validate hr)).revise_toInput now
  · exact (tidy_of_revise hs).revise_toInput now

/-- A rule for the end of URLs is copied, the copy is stored and loaded, and switched off then; and a rule
without a kind, with a blank before its pattern and an empty list of kinds, is saved twice. -/
theorem revise_toInput_unchanged_of_copy :
    let input : RuleInput :=
      { RuleInput.plain " a" "x" with matchType := .ending, priority := 0, note := "n " }
    let r := input.toRule "a" .epoch
    let legacy : Rule :=
      { (default : Rule) with
        urlPattern := " b*", tag := .urlFilter, responseContent := "x", resourceTypes := some [] }
    (∃ q, r.Becomes q ∧ q.note = "n (copy)" ∧ q.enabled = false ∧
      ∀ now, q.revise q.toInput now = .ok { q with updatedAt := now }) ∧
    ∃ s, legacy.revise legacy.toInput .epoch = .ok s ∧ s.urlPattern = "*b**" ∧
      ∀ now, s.revise s.toInput now = .ok { s with updatedAt := now } := by
  intro input r legacy
  have hr : input.validate .epoch = .ok r := by
    have htrim : Text.trim input.pattern = "a" := by decide +kernel
    rw [RuleInput.validate_eq_ok_iff, htrim]
    exact ⟨rfl, rfl⟩
  have hcopied : r.Becomes (r.copy .epoch) :=
    .copied .stays (show [r][0]? = some r from rfl)
      (show (Edit.duplicate 0).apply .epoch [r] = .ok [r, r.copy .epoch] from rfl) rfl
  have hloaded : r.Becomes (r.copy .epoch).retold :=
    .loaded hcopied (show (⟨[r, r.copy .epoch], true⟩ : RuleBook).rules[1]? = some (r.copy .epoch) from rfl)
      (RuleBook.ofBytes_toText_eq_retold _ .epoch) rfl
  have hswitched : r.Becomes { (r.copy .epoch).retold with enabled := false } :=
    .switched hloaded (show [(r.copy .epoch).retold][0]? = some _ from rfl)
      (show (Edit.setEnabled [0] false).apply .epoch [(r.copy .epoch).retold] = .ok _ from rfl) rfl
  refine ⟨⟨_, hswitched, by decide +kernel, rfl, ?_⟩, ?_⟩
  · exact revise_toInput_unchanged.1 input .epoch r _ hr hswitched
  have hs : legacy.revise legacy.toInput .epoch =
      .ok { legacy.toInput.toRule "b*" .epoch with createdAt := .epoch, enabled := false } := by
    have htrim : Text.trim legacy.toInput.pattern = "b*" := by decide +kernel
    refine revise_eq_ok_iff.mpr ⟨_, RuleInput.validate_eq_ok_iff.mpr ⟨?_, rfl⟩, ?_⟩
    · rw [htrim]
      rfl
    · rw [htrim]
      rfl
  exact ⟨_, hs, by decide +kernel, revise_toInput_unchanged.2 legacy _ .epoch hs⟩

end ReplyRules.Rule
