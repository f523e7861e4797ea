import ReplyRules.Proofs.Matching.Answer
import ReplyRules.Proofs.Store.RuleBook

/-!
Answers before and after a restart, between which a book is stored and loaded.  What is loaded are the rules
as their records tell them (`Rule.retold`).  They cover the same requests as before and are compiled in the
same places, so the same rule answers (`Rule.Answers.retold`); all that can change is the type that its
body is made for.

The type of a response is stored as a name.  A type without rules of its own may bear the name of one that
has them, and is that one when it is loaded (`ResponseType.Misnamed`); all other types are served as
before (`ResponseType.mime_ofName_name_iff`).

Main result: after a restart the same rule answers, or none as before, and its body is the same exactly if
its type is not misnamed (`RuleBook.answer_after_restart`).  Such a type is possible, and its body changes
(`RuleBook.answer_other_png`).
-/

namespace ReplyRules

variable {rules : List Rule} {r : Rule} {request : Request} {hit : CompiledRule}

/-! ### Types that are stored as others -/

namespace ResponseType

variable {t : ResponseType}

/-- The type is stored under the name of another one, which is not served as plain text. -/
def Misnamed (t : ResponseType) : Prop :=
  ∃ name, t = other name ∧ (ofName name).isKnown = true ∧ ofName name ≠ text

/-- Of the types with rules of their own, only one is served as plain text. -/
theorem mime_eq_plainMime_iff (h : t.isKnown = true) : t.mime = plainMime ↔ t = text := by
  cases t with
  | other name => cases h
  | _ => decide

/-- **A stored type is served as before**, unless it is stored as another one. -/
theorem mime_ofName_name_iff : (ofName t.name).mime = t.mime ↔ ¬ t.Misnamed := by
  -- a type with rules of its own is the one that its name stands for, so only the others are at stake
  cases t with
  | other name =>
    show (ofName name).mime = plainMime ↔ _
    cases hknown : (ofName name).isKnown with
    | false =>
      have hmime : (ofName name).mime = plainMime := by
        cases htype : ofName name with
        | other other => rfl
        | _ => simp [htype, isKnown] at hknown
      have hnot : ¬ (other name).Misnamed := by
        rintro ⟨_, ⟨⟩, hother, -⟩
        simp [hknown] at hother
      exact iff_of_true hmime hnot
    | true =>
      rw [mime_eq_plainMime_iff hknown]
      constructor
      · rintro htext ⟨_, ⟨⟩, -, hne⟩
        exact hne htext
      · intro hnot
        exact Decidable.byContradiction fun hne => hnot ⟨name, rfl, hknown, hne⟩
  | _ => exact iff_of_true (by decide) (by rintro ⟨_, ⟨⟩, _⟩)

end ResponseType

/-- A body is made of nothing but the content and the media type. -/
theorem Payload.ofContent_eq_iff {content : String} {t t' : ResponseType} :
    ofContent content t' = ofContent content t ↔ t'.mime = t.mime := by
  constructor
  · exact congrArg Payload.mime
  · intro h
    rw [ofContent, h, ofContent]

/-! ### Rules as their records tell them -/

namespace Rule

/-- Times and types have no part in what a rule covers. -/
theorem covers_retold : r.retold.Covers request ↔ r.Covers request := by
  rw [retold, floored]
  constructor
  · rintro ⟨henabled, hpattern, hcontent, haccepted, hkind⟩
    exact ⟨henabled, hpattern, hcontent, haccepted, hkind⟩
  · rintro ⟨henabled, hpattern, hcontent, haccepted, hkind⟩
    exact ⟨henabled, hpattern, hcontent, haccepted, hkind⟩

/-- Nor have they in whether it is compiled. -/
theorem survivor?_retold (r : Rule) :
    r.retold.survivor? = r.survivor?.map fun s => (s.1.retold, s.2) := by
  have heligible : r.retold.isEligible = r.isEligible := by
    rw [isEligible, isComplete, isEligible, isComplete, retold, floored]
  rw [survivor?, heligible, survivor?]
  cases r.isEligible with
  | false => rfl
  | true =>
    simp only [retold, floored]
    cases Matcher.compile r.urlPattern r.tag <;> rfl

/-- The same rules of the list are compiled. -/
theorem survivors_map_retold (rules : List Rule) :
    survivors (rules.map retold) = (survivors rules).map fun s => (s.1.retold, s.2) := by
  rw [survivors, List.filterMap_map, survivors, List.map_filterMap]
  exact congrArg (fun f => rules.filterMap f) (funext survivor?_retold)

/-- The answer comes from the same rule, with the body for the type that was stored. -/
theorem Answers.retold (h : Answers rules request hit) :
    ∃ r ∈ rules, r.Covers request ∧ hit.payload = .ofContent r.responseContent r.responseType ∧
      Answers (rules.map Rule.retold) request
        { hit with payload := .ofContent r.responseContent (.ofName r.responseType.name) } := by
  obtain ⟨before, r, behind, rfl, hcovers, hbefore, hbehind, hid, hpriority, hcompile, hpattern, htag,
    hresources, hpayload⟩ := h
  refine ⟨r, List.mem_append_right before List.mem_cons_self, hcovers, hpayload, ?_⟩
  -- the list is split at the same rule, and nothing that is asked of the others looks at types or times
  refine ⟨before.map Rule.retold, r.retold, behind.map Rule.retold, ?_, covers_retold.mpr hcovers,
    List.forall_mem_map.mpr fun q hq hq' => ?_, List.forall_mem_map.mpr fun q hq hq' => ?_, ?_, ?_⟩
  · rw [List.map_append, List.map_cons]
  · simp only [Rule.retold, floored]
    exact hbefore q hq (covers_retold.mp hq')
  · simp only [Rule.retold, floored]
    exact hbehind q hq (covers_retold.mp hq')
  · rw [survivors_map_retold, List.length_map]
    exact hid
  · rw [Rule.retold, floored]
    exact ⟨hpriority, hcompile, hpattern, htag, hresources, rfl⟩

end Rule

namespace RuleSet

theorem evaluate_ofRules_eq_some :
    (ofRules rules).evaluate request = some hit ↔ Rule.Answers rules request hit := by
  rw [evaluate_eq_some, leads_ofRules_iff]

end RuleSet

/-! ### A restart -/

namespace RuleBook

/-- The answer of a book to a request. -/
def answer (b : RuleBook) (now : Instant) (request : Request) : Option CompiledRule :=
  (compile b.rules b.enabled now).ruleSet.evaluate request

theorem answer_of_enabled {b : RuleBook} (h : b.enabled = true) (now : Instant) :
    b.answer now request = (RuleSet.ofRules b.rules).evaluate request := by
  rw [answer, compile, compileWith_ruleSet MatcherCache.sound_empty, h, if_pos rfl]

theorem answer_of_disabled {b : RuleBook} (h : b.enabled = false) (now : Instant) :
    b.answer now request = none := by
  rw [answer, compile, h]
  rfl

theorem answer_retold_eq_none (b : RuleBook) (now later : Instant) :
    b.retold.answer later request = none ↔ b.answer now request = none := by
  cases henabled : b.enabled with
  | false =>
    have hretold : b.retold.enabled = false := henabled
    exact iff_of_true (answer_of_disabled hretold later) (answer_of_disabled henabled now)
  | true =>
    have hretold : b.retold.enabled = true := henabled
    rw [answer_of_enabled henabled, answer_of_enabled hretold, RuleSet.evaluate_ofRules_eq_none,
      RuleSet.evaluate_ofRules_eq_none]
    show (∀ r ∈ b.rules.map Rule.retold, _) ↔ _
    simp only [List.forall_mem_map, Rule.covers_retold]

/-- The rule that answers is the same, and only its body may be another one. -/
theorem answer_retold_of_some {b : RuleBook} {now : Instant} (h : b.answer now request = some hit)
    (later : Instant) :
    ∃ r ∈ b.rules, r.Covers request ∧ hit.payload = .ofContent r.responseContent r.responseType ∧
      b.retold.answer later request =
        some { hit with payload := .ofContent r.responseContent (.ofName r.responseType.name) } := by
  cases henabled : b.enabled with
  | false =>
    rw [answer_of_disabled henabled] at h
    cases h
  | true =>
    have hretold : b.retold.enabled = true := henabled
    rw [answer_of_enabled henabled] at h
    rw [answer_of_enabled hretold]
    obtain ⟨r, hr, hcovers, hpayload, hanswers⟩ := (RuleSet.evaluate_ofRules_eq_some.mp h).retold
    exact ⟨r, hr, hcovers, hpayload, RuleSet.evaluate_ofRules_eq_some.mpr hanswers⟩

/-- **After a restart the same rule answers**, or none where none did, since every book is loaded with all
its rules.  The body of the answer is the same exactly if the type of the rule is not misnamed; so if no
rule of the book is misnamed, a restart cannot be noticed. -/
theorem answer_after_restart (b : RuleBook) (now later : Instant) :
    ∃ loaded, ofText later b.toText = .ok loaded ∧
      ∀ request,
        (loaded.answer later request = none ↔ b.answer now request = none) ∧
        (∀ hit, b.answer now request = some hit → ∃ r ∈ b.rules, r.Covers request ∧
          ∃ hit', loaded.answer later request = some hit' ∧
            hit' = { hit with payload := .ofContent r.responseContent (.ofName r.responseType.name) } ∧
            (hit'.payload = hit.payload ↔ ¬ r.responseType.Misnamed)) ∧
        ((∀ r ∈ b.rules, ¬ r.responseType.Misnamed) →
          loaded.answer later request = b.answer now request) := by
  refine ⟨b.retold, ofBytes_toText_eq_retold b later, fun request => ?_⟩
  refine ⟨answer_retold_eq_none b now later, fun hit hhit => ?_, fun hnamed => ?_⟩
  · obtain ⟨r, hr, hcovers, hpayload, hretold⟩ := answer_retold_of_some hhit later
    refine ⟨r, hr, hcovers, _, hretold, rfl, ?_⟩
    rw [hpayload, Payload.ofContent_eq_iff, ResponseType.mime_ofName_name_iff]
  · cases hhit : b.answer now request with
    | none => exact (answer_retold_eq_none b now later).mpr hhit
    | some hit =>
      obtain ⟨r, hr, -, hpayload, hretold⟩ := answer_retold_of_some hhit later
      have hmime : (ResponseType.ofName r.responseType.name).mime = r.responseType.mime :=
        ResponseType.mime_ofName_name_iff.mpr (hnamed r hr)
      rw [hretold, Payload.ofContent_eq_iff.mpr hmime, ← hpayload]

/-- A type without rules of its own that is called "png" is served as plain text; once it has been stored
and loaded, it is served as an image, and its content is not encoded any more. -/
theorem answer_other_png :
    let r : Rule := { (default : Rule) with
      urlPattern := "*"
      tag := .urlFilter
      responseType := .other "png"
      responseContent := "hello"
      priority := 1
      enabled := true }
    let b : RuleBook := ⟨[r], true⟩
    ∃ loaded, ofText .epoch b.toText = .ok loaded ∧
      (b.answer .epoch ⟨"https://a", .mainFrame⟩).map CompiledRule.payload =
        some ⟨"text/plain;charset=utf-8", "aGVsbG8="⟩ ∧
      (loaded.answer .epoch ⟨"https://a", .mainFrame⟩).map CompiledRule.payload =
        some ⟨"image/png", "hello"⟩ := by
  intro r b
  refine ⟨b.retold, ofBytes_toText_eq_retold b .epoch, ?_, ?_⟩
  · decide +kernel
  · decide +kernel

end RuleBook

end ReplyRules
