import ReplyRules.Proofs.Matching.Glob
import ReplyRules.Proofs.Rule.Validation
import ReplyRules.Proofs.Traffic.Resource
import ReplyRules.Matching.Compilation

/-!
Rules match as they are meant to.  A pattern that is entered is meant to cover some part of a URL: all of
it, a beginning, an end, or any piece (`MatchType.IsPart`).  It is stored with stars in the places of what
need not be covered, without a look at the stars that are in it already; the laws of globs say that this
comes to the same (`MatchType.glob_transport`).

Main result: what is made of an accepted input applies to the requests of the listed kinds that have a part
of which the entered pattern is a glob; a pattern without stars is that part
(`RuleInput.appliesTo_iff_isPart`).
-/

namespace ReplyRules

variable {input : RuleInput} {now : Instant} {r : Rule} {m : Matcher}

namespace MatchType

/-- Whether the part of a URL is one that a pattern may be meant to cover. -/
def IsPart (url part : List Char) : MatchType → Prop
  | exact => part = url
  | wildcard => part = url
  | beginning => part <+: url
  | ending => part <:+ url
  | contains => part <:+: url
  | regex => part <:+: url

/-- **A stored pattern is a glob of a URL when the entered one is a glob of a part of it.** -/
theorem glob_transport {kind : MatchType} (hkind : kind ≠ regex) (pattern : String) (url : List Char) :
    glob (kind.transport pattern).toList url = true ↔
      ∃ part, kind.IsPart url part ∧ glob pattern.toList part = true := by
  have hstar : "*".toList = ['*'] := rfl
  cases kind with
  | exact => simp only [transport, IsPart, exists_eq_left]
  | wildcard => simp only [transport, IsPart, exists_eq_left]
  | beginning =>
    rw [transport, String.toList_append, hstar, glob_concat_star]
    rfl
  | ending =>
    rw [transport, String.toList_append, hstar]
    exact glob_cons_star
  | contains =>
    rw [transport, String.toList_append, String.toList_append, hstar]
    exact glob_between_stars
  | regex => exact absurd rfl hkind

/-- What is entered is a piece of what is stored. -/
theorem infix_transport (kind : MatchType) (pattern : String) :
    pattern.toList <:+: (kind.transport pattern).toList := by
  cases kind with
  | exact => exact List.infix_rfl
  | wildcard => exact List.infix_rfl
  | regex => exact List.infix_rfl
  | beginning =>
    rw [transport, String.toList_append]
    exact (List.prefix_append _ _).isInfix
  | ending =>
    rw [transport, String.toList_append]
    exact (List.suffix_append _ _).isInfix
  | contains =>
    rw [transport, String.toList_append, String.toList_append]
    exact ⟨_, _, rfl⟩

theorem tag_eq_urlFilter {kind : MatchType} (hkind : kind ≠ regex) : kind.tag = .urlFilter := by
  cases kind with
  | regex => exact absurd rfl hkind
  | _ => rfl

end MatchType

/-- The filter of a rule lets pass what has been listed for it. -/
theorem RuleInput.contains_ofFilter_toRule (pattern : String) (kind : ResourceKind) :
    (ResourceSet.ofFilter (input.toRule pattern now).resourceTypes).contains kind = true ↔
      input.resourceTypes = [] ∨ kind ∈ input.resourceTypes := by
  rw [ResourceSet.contains_ofFilter]
  show (∀ kinds ∈ (if input.resourceTypes.isEmpty then none else some input.resourceTypes), _) ↔ _
  cases input.resourceTypes with
  | nil => simp
  | cons k kinds => simp

/-- **Rules match as they are meant to.**  What is made of an accepted input that is no regular expression
applies to the requests of the kinds that are listed, or of all kinds if none is, in whose URL the pattern
covers a part that it is meant to cover; a star stands for any characters there.  Without stars, the
pattern itself is such a part of the URL: all of it, its beginning, its end, or a piece of it. -/
theorem RuleInput.appliesTo_iff_isPart (hr : input.validate now = .ok r)
    (hkind : input.matchType ≠ .regex) (hm : Matcher.compile r.urlPattern r.tag = .ok m) :
    let pattern := (Text.trim input.pattern).toList
    ∀ id request,
      ((r.compiled id m).appliesTo request = true ↔
        (input.resourceTypes = [] ∨ request.kind ∈ input.resourceTypes) ∧
          ∃ part, input.matchType.IsPart request.url.toList part ∧ glob pattern part = true) ∧
      ('*' ∉ pattern →
        ((r.compiled id m).appliesTo request = true ↔
          (input.resourceTypes = [] ∨ request.kind ∈ input.resourceTypes) ∧
            input.matchType.IsPart request.url.toList pattern)) := by
  intro pattern id request
  obtain ⟨-, rfl⟩ := validate_eq_ok_iff.mp hr
  have hfilter : Matcher.compile (input.matchType.transport (Text.trim input.pattern)) .urlFilter = .ok m := by
    rw [← MatchType.tag_eq_urlFilter hkind]
    exact hm
  have hglobs : ((input.toRule (Text.trim input.pattern) now).compiled id m).appliesTo request = true ↔
      (input.resourceTypes = [] ∨ request.kind ∈ input.resourceTypes) ∧
        ∃ part, input.matchType.IsPart request.url.toList part ∧ glob pattern part = true := by
    rw [CompiledRule.appliesTo, Bool.and_eq_true]
    refine and_congr (contains_ofFilter_toRule _ _) ?_
    show m.regex.isMatch request.url = true ↔ _
    rw [Matcher.regex_of_compile_urlFilter hfilter]
    exact (Matcher.isIn_filterExpr _ _).trans (MatchType.glob_transport hkind _ _)
  refine ⟨hglobs, fun hstar => ?_⟩
  rw [hglobs]
  simp only [glob_iff_eq hstar, exists_eq_right]

/-- A pattern for the end of URLs, entered with a blank before it and a star in it, for scripts only. -/
theorem RuleInput.appliesTo_ending_with_star :
    let input : RuleInput :=
      { RuleInput.plain " lib*.js" "x" with matchType := .ending, resourceTypes := [.script] }
    let r := input.toRule "lib*.js" .epoch
    input.validate .epoch = .ok r ∧
      ∃ m, Matcher.compile r.urlPattern r.tag = .ok m ∧
        (r.compiled 1 m).appliesTo ⟨"https://a/lib/2/\n.js", .script⟩ = true ∧
        (r.compiled 1 m).appliesTo ⟨"https://a/lib.js", .image⟩ = false := by
  intro input r
  have htrim : Text.trim input.pattern = "lib*.js" := by decide +kernel
  have hr : input.validate .epoch = .ok r := by
    rw [validate_eq_ok_iff, htrim]
    exact ⟨rfl, rfl⟩
  obtain ⟨m, hm⟩ : ∃ m, Matcher.compile r.urlPattern r.tag = .ok m := by
    have hfits : (Matcher.filterExpr "*lib*.js".toList).fits = true := by decide +kernel
    exact ⟨_, (Matcher.compile_urlFilter "*lib*.js").trans (if_pos hfits)⟩
  have happlies := appliesTo_iff_isPart hr (by decide) hm
  rw [htrim] at happlies
  refine ⟨hr, m, hm, ?_, ?_⟩
  · rw [(happlies 1 _).1]
    exact ⟨.inr (by decide), "lib/2/\n.js".toList, ⟨"https://a/".toList, rfl⟩, by decide +kernel⟩
  · rw [← Bool.not_eq_true, (happlies 1 _).1]
    rintro ⟨hlisted | hlisted, -⟩
    · cases hlisted
    · exact absurd hlisted (by decide)

end ReplyRules
