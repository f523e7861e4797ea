import ReplyRules.Engine.View
import ReplyRules.Proofs.Text.Lowercase

/-!
The search for rules.  A query is looked for in four texts of a rule, and both are lowered before they are
compared.  That a text shows the query as it was typed (`Rule.Shows`) is therefore not enough to find it: the
query by itself has to be lowered as it is where it stands in the text (`Rule.ShowsAlike`).

Main result: a search lists, in their order, the rules that match, those among them that show the query where
it is lowered alike; and all rules that show it are found if and only if the query is steady
(`Engine.search_shown`).
-/

namespace ReplyRules

open Text

variable {e : Engine} {r : Rule} {query : String} {place : Nat}

namespace Rule

/-! ### Rules that show a query -/

/-- The query stands in one of the texts, as it was typed. -/
def Shows (r : Rule) (query : String) : Prop :=
  ∃ text ∈ r.searchedTexts, query.toList <:+: text.toList

/-- The query stands in one of the texts, and is lowered there as it is by itself. -/
def ShowsAlike (r : Rule) (query : String) : Prop :=
  ∃ text ∈ r.searchedTexts, ∃ before behind, text.toList = before ++ query.toList ++ behind ∧
    SigmasAgree before.reverse query.toList behind

theorem matchesQuery_iff :
    r.matchesQuery query = true ↔
      ∃ text ∈ r.searchedTexts, contains (lower text) (lower query) = true :=
  List.any_eq_true

theorem ShowsAlike.matchesQuery (h : r.ShowsAlike query) : r.matchesQuery query = true := by
  obtain ⟨text, htext, before, behind, hoccurs, hagree⟩ := h
  exact matchesQuery_iff.mpr ⟨text, htext, contains_lower_of_sigmasAgree hoccurs hagree⟩

theorem Shows.showsAlike (h : r.Shows query) (hsteady : Steady query.toList) : r.ShowsAlike query := by
  obtain ⟨text, htext, before, behind, hoccurs⟩ := h
  exact ⟨text, htext, before, behind, hoccurs.symm, hsteady.sigmasAgree⟩

/-- A rule in which nothing but the text is searched. -/
def showing (text : String) : Rule :=
  { (default : Rule) with
    urlPattern := text, originalPattern := text, note := text, responseType := .other text }

theorem mem_searchedTexts_showing {text s : String} : s ∈ (showing text).searchedTexts ↔ s = text := by
  simp [searchedTexts, showing, ResponseType.name]

/-- All rules that show a query match it exactly if what stands around the query has no say in how it is
lowered. -/
theorem forall_matchesQuery_iff :
    (∀ r : Rule, r.Shows query → r.matchesQuery query = true) ↔ Steady query.toList := by
  constructor
  · refine fun h => forall_contains_lower_iff.mp fun s hs => ?_
    have hmatches := h (showing s) ⟨s, mem_searchedTexts_showing.mpr rfl, hs⟩
    obtain ⟨text, htext, hcontains⟩ := matchesQuery_iff.mp hmatches
    rwa [mem_searchedTexts_showing.mp htext] at hcontains
  · exact fun h r hr => (hr.showsAlike h).matchesQuery

/-- Where a word goes on behind the query, its last sigma is not a final one, as it is by itself. -/
theorem not_matchesQuery_beginning_of_word :
    let r : Rule := { (default : Rule) with note := "ΟΔΟΣΗΜΑΝΣΗ" }
    r.Shows "ΟΔΟΣ" ∧ r.matchesQuery "ΟΔΟΣ" = false :=
  ⟨⟨"ΟΔΟΣΗΜΑΝΣΗ", by decide, by decide⟩, by decide +kernel⟩

end Rule

namespace Engine

/-! ### What is listed -/

theorem mem_search :
    (place, r) ∈ e.search query ↔
      e.rules[place]? = some r ∧ (query = "" ∨ r.matchesQuery query = true) := by
  simp only [search, List.mem_map, List.mem_filter, List.mem_zipIdx_iff_getElem?, Bool.or_eq_true,
    beq_iff_eq, Prod.exists, Prod.mk.injEq]
  constructor
  · rintro ⟨_, _, ⟨hget, hquery⟩, rfl, rfl⟩
    exact ⟨hget, hquery⟩
  · rintro ⟨hget, hquery⟩
    exact ⟨r, place, ⟨hget, hquery⟩, rfl, rfl⟩

/-- Rules are listed in their order. -/
theorem pairwise_search (e : Engine) (query : String) : (e.search query).Pairwise (·.1 < ·.1) := by
  have hplaces : e.rules.zipIdx.Pairwise (·.2 < ·.2) := by
    rw [← List.pairwise_map, List.zipIdx_map_snd]
    exact List.pairwise_lt_range'
  exact List.pairwise_map.mpr (hplaces.filter _)

/-- **What a search finds.**  The rules are listed in their order, each with its place: those that match, and
all rules for the empty query.  Every rule that shows the query where it is lowered as by itself is among
them.  No rule that shows the query is ever missed if and only if the query is steady, and it is so if there
is no capital sigma in it. -/
theorem search_shown (e : Engine) (query : String) :
    (e.search query).Pairwise (·.1 < ·.1) ∧
    (∀ place r, (place, r) ∈ e.search query ↔
      e.rules[place]? = some r ∧ (query = "" ∨ r.matchesQuery query = true)) ∧
    (∀ place r, e.rules[place]? = some r → r.ShowsAlike query → (place, r) ∈ e.search query) ∧
    ((∀ r : Rule, r.Shows query → r.matchesQuery query = true) ↔ Steady query.toList) ∧
    ('Σ' ∉ query.toList → Steady query.toList) := by
  refine ⟨e.pairwise_search query, fun place r => mem_search, fun place r hget hshows => ?_,
    Rule.forall_matchesQuery_iff, steady_of_notMem⟩
  exact mem_search.mpr ⟨hget, .inr hshows.matchesQuery⟩

end Engine

end ReplyRules
