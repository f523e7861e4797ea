import ReplyRules.Rule.Exchange
import ReplyRules.Proofs.Rule.Record

/-!
Rules that are written to a document and taken from it.  From the document for a list of rules those are
taken that are complete, in their order, with their times to the millisecond; the others are left out of the
records already, and none is lost behind that (`Rule.ofDocument_exportText`).  What has been taken is written
as the same text as what was complete before (`Rule.exportText_map_floored`).

A type without rules of its own is written as it is called, but may be read as another one, which is written
in its own way.  Only then is what has been taken written as another text (`Rule.exportText_map_retold_iff`).
-/

namespace ReplyRules.Rule

variable {rules : List Rule}

/-- A record tells whether its rule is complete. -/
theorem isImportable_toJson (r : Rule) : isImportable r.toJson = r.isComplete := by
  have hpattern : r.toJson.member? "urlPattern" = some (.string r.urlPattern) := rfl
  have hcontent : r.toJson.member? "responseContent" = some (.string r.responseContent) := by
    cases hkind : r.patternKind <;> simp [toJson, Json.member?, hkind]
  simp only [isImportable, hasText, hpattern, hcontent, Option.bind_some, Json.text?, isComplete]

theorem filter_isImportable (rules : List Rule) :
    (rules.map toJson).filter isImportable = (complete rules).map toJson := by
  have hcomplete : isImportable ∘ toJson = isComplete := funext isImportable_toJson
  rw [List.filter_map, hcomplete, complete]

theorem complete_complete (rules : List Rule) : complete (complete rules) = complete rules := by
  simp [complete, List.filter_filter]

theorem exportText_map_floored (rules : List Rule) : exportText (rules.map floored) = exportText rules := by
  rw [exportText, listToJson, map_toJson_floored, exportText, listToJson]

theorem complete_map_retold (rules : List Rule) :
    complete (rules.map retold) = (complete rules).map retold := by
  have hcomplete : isComplete ∘ retold = isComplete := rfl
  rw [complete, List.filter_map, hcomplete, complete]

/-- The records can be had back from a document. -/
theorem ofText_exportText (rules : List Rule) :
    Json.ofText (exportText rules) = .ok (.array (rules.map toJson)) :=
  Json.Fits.ofText_pretty (fits_listToJson rules 124)

theorem exportText_inj {rules' : List Rule} :
    exportText rules = exportText rules' ↔ rules.map toJson = rules'.map toJson := by
  constructor
  · intro h
    have hread := ofText_exportText rules
    rw [h, ofText_exportText] at hread
    exact (Json.array.inj (Except.ok.inj hread)).symm
  · intro h
    rw [exportText, listToJson, h, exportText, listToJson]

/-- A record that is read and written again is the same, unless its type is written in another way. -/
theorem toJson_retold_eq_iff {r : Rule} :
    r.retold.toJson = r.toJson ↔ (ResponseType.ofName r.responseType.name).name = r.responseType.name := by
  have hmember (r : Rule) : r.toJson.member? "responseType" = some (.string r.responseType.name) := by
    cases hkind : r.patternKind <;> simp [toJson, Json.member?, hkind, ResponseType.toJson]
  constructor
  · intro h
    have hsame := hmember r.retold
    rw [h, hmember, Option.some.injEq, Json.string.injEq] at hsame
    exact hsame.symm
  · intro h
    have htype : (ResponseType.ofName r.responseType.name).toJson = r.responseType.toJson := by
      rw [ResponseType.toJson, h, ResponseType.toJson]
    rw [← r.toJson_floored, retold, toJson, htype, toJson]
    rfl

theorem exportText_map_retold_iff :
    exportText (rules.map retold) = exportText rules ↔
      ∀ r ∈ rules, (ResponseType.ofName r.responseType.name).name = r.responseType.name := by
  rw [exportText_inj, List.map_map, List.map_inj_left]
  exact forall₂_congr fun r _ => toJson_retold_eq_iff

/-- The complete rules are taken from a document, each as its record tells it. -/
theorem ofDocument_exportText_eq_retold (rules : List Rule) (now : Instant) :
    ofDocument now (exportText rules) = .ok ((complete rules).map retold) := by
  rw [ofDocument, ofText_exportText]
  simp only [filter_isImportable, ofRecords_map_toJson]

/-- **The complete rules are taken from a document**, each with its times to the millisecond. -/
theorem ofDocument_exportText (h : ∀ r ∈ rules, r.responseType.IsNamed) (now : Instant) :
    ofDocument now (exportText rules) = .ok ((complete rules).map floored) := by
  have hcomplete : ∀ r ∈ complete rules, r.responseType.IsNamed :=
    fun r hr => h r (List.mem_filter.mp hr).1
  rw [ofDocument_exportText_eq_retold, map_retold_eq_floored hcomplete]

end ReplyRules.Rule
