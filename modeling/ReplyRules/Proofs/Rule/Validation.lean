import ReplyRules.Rule.Validation

/-!
What is entered and accepted.  An input is accepted when it has a pattern and a content and, where the
pattern is meant as a regular expression, is one (`RuleInput.check_eq_ok_iff`); the rule is then known
(`RuleInput.validate_eq_ok_iff`), and it is complete (`RuleInput.isComplete_of_validate`).  A rule is revised
with what would be accepted for a new one (`Rule.revise_eq_ok_iff`, `Rule.revise_eq_error_iff`).
-/

namespace ReplyRules

variable {input : RuleInput} {pattern : String} {now : Instant} {r r' : Rule}

theorem MatchType.transport_ne_empty (h : pattern ≠ "") (kind : MatchType) : kind.transport pattern ≠ "" := by
  cases kind with
  | exact => exact h
  | wildcard => exact h
  | regex => exact h
  | beginning => simp [transport]
  | ending => simp [transport]
  | contains => simp [transport]

namespace RuleInput

/-- **What is accepted.** -/
theorem check_eq_ok_iff :
    input.check pattern = .ok () ↔ pattern ≠ "" ∧ input.content ≠ "" ∧
      (input.matchType = .regex → ∃ regex, Regex.compile pattern = .ok regex) := by
  unfold check
  split
  · next h => simp [h]
  · next hpattern =>
    split
    · next h => simp [h]
    · next hcontent =>
      split
      · next hregex =>
        cases Regex.compile pattern <;> simp [hpattern, hcontent, hregex]
      · next hregex => simp [hpattern, hcontent, hregex]

theorem validate_eq_ok_iff :
    input.validate now = .ok r ↔
      input.check (Text.trim input.pattern) = .ok () ∧ r = input.toRule (Text.trim input.pattern) now := by
  show (input.check (Text.trim input.pattern) >>= fun _ => Except.ok (input.toRule _ now)) = .ok r ↔ _
  cases input.check (Text.trim input.pattern) with
  | error e => exact ⟨nofun, fun h => nomatch h.1⟩
  | ok _ =>
    constructor
    · intro h
      exact ⟨rfl, (Except.ok.inj h).symm⟩
    · rintro ⟨-, rfl⟩
      rfl

/-- What is accepted makes a complete rule, however its pattern is stored. -/
theorem isComplete_of_validate (h : input.validate now = .ok r) : r.isComplete = true := by
  obtain ⟨hcheck, rfl⟩ := validate_eq_ok_iff.mp h
  obtain ⟨hpattern, hcontent, -⟩ := check_eq_ok_iff.mp hcheck
  rw [Rule.isComplete, Bool.and_eq_true, bne_iff_ne, bne_iff_ne]
  exact ⟨MatchType.transport_ne_empty hpattern input.matchType, hcontent⟩

end RuleInput

namespace Rule

/-- A priority is raised to 1 once. -/
theorem max_one_max_one (n : UInt32) : max (max n 1) 1 = max n 1 := by
  show (if (if n ≤ 1 then 1 else n) ≤ 1 then 1 else (if n ≤ 1 then 1 else n)) = if n ≤ 1 then 1 else n
  split <;> simp_all

/-- A revised rule is the one that is entered, but for the time of creation and the switch. -/
theorem revise_eq_ok_iff :
    r.revise input now = .ok r' ↔
      ∃ entered, input.validate now = .ok entered ∧
        r' = { entered with createdAt := r.createdAt, enabled := r.enabled } := by
  rw [revise]
  cases input.validate now with
  | error e => exact ⟨nofun, fun ⟨_, h, _⟩ => nomatch h⟩
  | ok entered =>
    constructor
    · intro h
      exact ⟨entered, rfl, (Except.ok.inj h).symm⟩
    · rintro ⟨_, ⟨⟩, rfl⟩
      rfl

/-- A rule does not matter for what is refused as its revision. -/
theorem revise_eq_error_iff {e : ValidationError} :
    r.revise input now = .error e ↔ input.validate now = .error e := by
  rw [revise]
  cases input.validate now with
  | error e' => exact Iff.rfl
  | ok entered => exact ⟨nofun, nofun⟩

theorem isComplete_of_revise (h : r.revise input now = .ok r') : r'.isComplete = true := by
  obtain ⟨entered, hentered, rfl⟩ := revise_eq_ok_iff.mp h
  have hcomplete : entered.isComplete = true := RuleInput.isComplete_of_validate hentered
  exact hcomplete

end Rule

end ReplyRules
