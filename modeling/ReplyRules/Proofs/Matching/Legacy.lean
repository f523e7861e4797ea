import ReplyRules.Proofs.Matching.MatchType
import ReplyRules.Proofs.Text.Blank

/-!
Filters whose kind has not been recorded.  The form of such a rule shows the pattern that was entered, or
the stored one if that is all there is, and takes it to be meant for any piece of a URL.  So when the rule is
saved again, blanks are taken away at the ends of the pattern and stars are put there, and the rule may match
more than before.

It never matches less: what is shown is a piece of what was stored (`Rule.KindUnknown.shown_infix`), and if a
pattern is a glob of a URL, any piece of it is a glob of a piece of the URL (`exists_glob_of_piece`).

Main result: a rule that is saved again as it was opened applies wherever it did, and answers with the same
body (`Rule.KindUnknown.appliesTo_of_revise`).
-/

namespace ReplyRules.Rule

variable {r r' : Rule} {m m' : Matcher} {now : Instant}

/-- The rule is a filter, it is not known of which kind, and the entered pattern is either missing or was
stored as one of the kinds asks. -/
structure KindUnknown (r : Rule) : Prop where
  tag_eq : r.tag = .urlFilter
  patternKind_eq : r.patternKind = none
  stored : r.originalPattern = "" ∨
    ∃ kind, kind ≠ MatchType.regex ∧ r.urlPattern = kind.transport r.originalPattern

namespace KindUnknown

/-- The pattern that is shown is a piece of the one that is stored. -/
theorem shown_infix (h : r.KindUnknown) : r.shownPattern.toList <:+: r.urlPattern.toList := by
  rw [shownPattern]
  split
  · exact List.infix_rfl
  · next hne =>
    obtain ⟨kind, -, hkind⟩ := h.stored.resolve_left hne
    rw [hkind]
    exact kind.infix_transport r.originalPattern

/-- The form takes the pattern to be meant for any piece of a URL. -/
theorem shownMatchType_eq (h : r.KindUnknown) : r.shownMatchType = .contains := by
  rw [shownMatchType, h.patternKind_eq, shownMatchType.fallback, h.tag_eq]

/-- What is saved again. -/
theorem eq_of_revise (h : r.KindUnknown) (hrevise : r.revise r.toInput now = .ok r') :
    r'.urlPattern = MatchType.contains.transport (Text.trim r.shownPattern) ∧ r'.tag = .urlFilter ∧
      r' = { r.toInput.toRule (Text.trim r.shownPattern) now with
        createdAt := r.createdAt, enabled := r.enabled } := by
  obtain ⟨entered, hentered, rfl⟩ := revise_eq_ok_iff.mp hrevise
  obtain ⟨-, rfl⟩ := RuleInput.validate_eq_ok_iff.mp hentered
  have hkind : r.toInput.matchType = .contains := h.shownMatchType_eq
  refine ⟨?_, ?_, rfl⟩
  · rw [RuleInput.toRule, hkind]
    rfl
  · rw [RuleInput.toRule, hkind]
    rfl

/-- The pattern that is saved again covers what the stored one covers. -/
theorem glob_of_glob (h : r.KindUnknown) {url : List Char} (hglob : glob r.urlPattern.toList url = true) :
    glob (MatchType.contains.transport (Text.trim r.shownPattern)).toList url = true := by
  have hpiece : (Text.trim r.shownPattern).toList <:+: r.urlPattern.toList := by
    rw [Text.trim, String.toList_ofList]
    exact (Text.trimChars_infix _).trans h.shown_infix
  have hkind : MatchType.contains ≠ .regex := by decide
  exact (MatchType.glob_transport hkind _ _).mpr (exists_glob_of_piece hpiece hglob)

end KindUnknown

/-- A filter that lists no kinds is shown and saved as none, and lets the same kinds pass. -/
theorem ofFilter_shown (filter : Option (List ResourceKind)) :
    ResourceSet.ofFilter (if (filter.getD []).isEmpty then none else some (filter.getD [])) =
      ResourceSet.ofFilter filter := by
  cases filter with
  | none => rfl
  | some kinds =>
    cases kinds with
    | nil => rfl
    | cons kind kinds => rfl

/-- **A filter of unknown kind never matches less when it is saved again.**  If it can be saved as it was
opened, and compiles before and after, it applies to all the requests that it applied to, with the same body
and priority and for the same kinds of requests; and it is switched on if it was. -/
theorem KindUnknown.appliesTo_of_revise (h : r.KindUnknown) (hrevise : r.revise r.toInput now = .ok r')
    (hm : Matcher.compile r.urlPattern r.tag = .ok m)
    (hm' : Matcher.compile r'.urlPattern r'.tag = .ok m') (id id' : UInt32) :
    (∀ request, (r.compiled id m).appliesTo request = true →
      (r'.compiled id' m').appliesTo request = true) ∧
    (r'.compiled id' m').payload = (r.compiled id m).payload ∧
    r'.effectivePriority = r.effectivePriority ∧
    r'.enabled = r.enabled ∧
    ResourceSet.ofFilter r'.resourceTypes = ResourceSet.ofFilter r.resourceTypes := by
  obtain ⟨hpattern, htag, hr'⟩ := h.eq_of_revise hrevise
  have hkinds : ResourceSet.ofFilter r'.resourceTypes = ResourceSet.ofFilter r.resourceTypes := by
    rw [hr']
    exact ofFilter_shown r.resourceTypes
  rw [h.tag_eq] at hm
  rw [htag, hpattern] at hm'
  refine ⟨fun request happ => ?_, ?_, ?_, ?_, hkinds⟩
  · rw [CompiledRule.appliesTo, Bool.and_eq_true] at happ ⊢
    obtain ⟨hkind, haccepts⟩ := happ
    refine ⟨?_, ?_⟩
    · show (ResourceSet.ofFilter r'.resourceTypes).contains request.kind = true
      rw [hkinds]
      exact hkind
    · exact (Matcher.accepts_iff_glob hm' _).mpr
        (h.glob_of_glob ((Matcher.accepts_iff_glob hm _).mp haccepts))
  · rw [hr']
    rfl
  · -- the form shows the priority that counts, and it is raised once more when it is saved
    rw [hr']
    exact (max_one_max_one _).trans (max_one_max_one r.priority)
  · rw [hr']

/-- A pattern for the end of URLs, with a blank before it, a blank behind it and a star in it.  Once it has
been saved again, the blanks are gone, and it matches in the middle of URLs too. -/
theorem KindUnknown.appliesTo_of_revise_blank :
    let r : Rule := { (default : Rule) with
      urlPattern := "* lib*.js "
      originalPattern := " lib*.js "
      tag := .urlFilter
      responseContent := "x"
      resourceTypes := some [] }
    let request : Request := ⟨"https://a/ lib\n2.js ", .script⟩
    r.KindUnknown ∧ ∃ r' m m', r.revise r.toInput .epoch = .ok r' ∧ r'.urlPattern = "*lib*.js*" ∧
      Matcher.compile r.urlPattern r.tag = .ok m ∧ Matcher.compile r'.urlPattern r'.tag = .ok m' ∧
      (r.compiled 1 m).appliesTo request = true ∧ (r'.compiled 1 m').appliesTo request = true := by
  intro r request
  have hr : r.KindUnknown := ⟨rfl, rfl, .inr ⟨.ending, by decide, by decide +kernel⟩⟩
  let r' : Rule := { r.toInput.toRule "lib*.js" .epoch with
    createdAt := r.createdAt, enabled := r.enabled }
  have htrim : Text.trim r.toInput.pattern = "lib*.js" := by decide +kernel
  have hrevise : r.revise r.toInput .epoch = .ok r' := by
    refine revise_eq_ok_iff.mpr ⟨_, RuleInput.validate_eq_ok_iff.mpr ⟨?_, rfl⟩, ?_⟩
    · rw [htrim]
      rfl
    · rw [htrim]
  obtain ⟨m, hm⟩ : ∃ m, Matcher.compile "* lib*.js " .urlFilter = .ok m :=
    Matcher.exists_compile_of_fits (by decide +kernel)
  obtain ⟨m', hm'⟩ : ∃ m', Matcher.compile "*lib*.js*" .urlFilter = .ok m' :=
    Matcher.exists_compile_of_fits (by decide +kernel)
  have happ : (r.compiled 1 m).appliesTo request = true := by
    rw [CompiledRule.appliesTo, Bool.and_eq_true]
    exact ⟨show (ResourceSet.ofFilter (some [])).contains .script = true by decide,
      (Matcher.accepts_iff_glob hm _).mpr (by decide +kernel)⟩
  exact ⟨hr, r', m, m', hrevise, by decide +kernel, hm, hm', happ,
    (hr.appliesTo_of_revise hrevise hm hm' 1 1).1 request happ⟩

end ReplyRules.Rule
