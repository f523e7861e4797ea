import ReplyRules.Engine.Edit
import ReplyRules.Proofs.Store.Confinement

/-!
What is taken from a document.  A document is sieved before its records are read: `isImportable` looks at
the values of two keys.  A stored book is read first and sieved afterwards: `complete` looks at two fields
of the rules.  The two sieves agree on every record that is an object, since the fields of a rule are the
values of its keys (`isImportable_of_ofJson?`), and so they agree on a document, as long as it has no
lists among its records (`complete_ofRecords`); a list can be read as a rule by its order, but is never
taken from a document.

Main result: `ofDocument_takes`.  The two refusals of a document are those of its text and of its value;
from every other one exactly the complete rules of its objects are taken (`taken?`), the same ones as from
a book with these records; and an import drops nothing of what was taken.
-/

namespace ReplyRules.Rule

open Json (field?)

variable {now : Instant} {v : Json} {r : Rule} {members : List (String × Json)}

/-- What is taken from an element of a document: the rule of an object, if it is one and is complete. -/
def taken? (now : Instant) : Json → Option Rule
  | .object members => (ofJson? now (.object members)).filter isComplete
  | _ => none

/-- A field that is a text when it is missing has a text exactly if it is not empty. -/
theorem hasText_of_field? {key s : String} (h : field? key Json.text? (some "") v = some s) :
    hasText key v = (s != "") := by
  rw [field?] at h
  rw [hasText]
  cases hmember : v.member? key with
  | none =>
    rw [hmember] at h
    cases h
    rfl
  | some w =>
    rw [hmember] at h
    rw [Option.bind_some, show w.text? = some s from h]

/-- The two texts of a rule that make it complete are those of its record. -/
theorem field?_of_ofJson? (h : ofJson? now v = some r) :
    ∃ record, v.record? fields = some record ∧
      field? "urlPattern" Json.text? (some "") record = some r.urlPattern ∧
      field? "responseContent" Json.text? (some "") record = some r.responseContent := by
  -- of all the fields only these two matter
  obtain ⟨record, hrecord, h⟩ := Option.bind_eq_some_iff.mp h
  obtain ⟨urlPattern, hpattern, h⟩ := Option.bind_eq_some_iff.mp h
  iterate 4 obtain ⟨_, -, h⟩ := Option.bind_eq_some_iff.mp h
  obtain ⟨responseContent, hcontent, h⟩ := Option.bind_eq_some_iff.mp h
  iterate 6 obtain ⟨_, -, h⟩ := Option.bind_eq_some_iff.mp h
  cases h
  exact ⟨record, hrecord, hpattern, hcontent⟩

/-- **A record tells whether its rule is complete**, before it is read as a rule. -/
theorem isImportable_of_ofJson? (h : ofJson? now (.object members) = some r) :
    isImportable (.object members) = r.isComplete := by
  obtain ⟨record, hrecord, hpattern, hcontent⟩ := field?_of_ofJson? h
  cases hrecord
  rw [isImportable, hasText_of_field? hpattern, hasText_of_field? hcontent, isComplete]

/-- Looking at the two keys first does not change what is taken. -/
theorem taken?_eq_ite (now : Instant) (v : Json) :
    taken? now v = if isImportable v then ofJson? now v else none := by
  cases v with
  | object members =>
    rw [taken?]
    cases hr : ofJson? now (.object members) with
    | none => simp
    | some r => simp [isImportable_of_ofJson? hr, Option.filter]
  | _ => rfl

theorem ofRecords_filter_isImportable (now : Instant) (records : List Json) :
    ofRecords now (records.filter isImportable) = records.filterMap (taken? now) := by
  rw [ofRecords, List.filterMap_filter]
  exact congrArg (fun f => records.filterMap f) (funext fun v => (taken?_eq_ite now v).symm)

/-- Of anything but a list, what is taken is the rule that it is read as, if that is complete. -/
theorem taken?_of_not_array (now : Instant) (h : v.array? = none) :
    taken? now v = (ofJson? now v).filter isComplete := by
  cases v with
  | array items => cases h
  | _ => rfl

/-- Reading first and sieving afterwards takes the same rules. -/
theorem complete_ofRecords {records : List Json} (h : ∀ v ∈ records, v.array? = none)
    (now : Instant) : complete (ofRecords now records) = records.filterMap (taken? now) := by
  rw [complete, ofRecords, List.filter_filterMap]
  induction records with
  | nil => rfl
  | cons v records ih =>
    have hrest := ih fun w hw => h w (List.mem_cons_of_mem v hw)
    rw [List.filterMap_cons, List.filterMap_cons, hrest, taken?_of_not_array now (h v List.mem_cons_self)]

/-- Nothing incomplete is taken. -/
theorem complete_filterMap_taken? (now : Instant) (records : List Json) :
    complete (records.filterMap (taken? now)) = records.filterMap (taken? now) := by
  refine List.filter_eq_self.mpr fun r hr => ?_
  obtain ⟨v, -, hv⟩ := List.mem_filterMap.mp hr
  cases v with
  | object members => exact (Option.filter_eq_some_iff.mp hv).2
  | _ => cases hv

theorem ofDocument_of_array {text : String} {records : List Json}
    (h : Json.ofText text = .ok (.array records)) (now : Instant) :
    ofDocument now text = .ok (records.filterMap (taken? now)) := by
  rw [ofDocument, h]
  exact congrArg Except.ok (ofRecords_filter_isImportable now records)

theorem ofDocument_eq_notJson_iff {text text' : String} {e : JsonError} :
    ofDocument now text = .error (.notJson text' e) ↔ text' = text ∧ Json.ofText text = .error e := by
  rw [ofDocument]
  split
  case h_1 err hread =>
    rw [hread]
    constructor
    · intro h
      cases h
      exact ⟨rfl, rfl⟩
    · rintro ⟨rfl, h⟩
      cases h
      rfl
  case h_2 records hread =>
    rw [hread]
    exact ⟨nofun, fun h => nomatch h.2⟩
  case h_3 v hne hread =>
    rw [hread]
    exact ⟨nofun, fun h => nomatch h.2⟩

theorem ofDocument_eq_notArray_iff {text : String} :
    ofDocument now text = .error .notArray ↔ ∃ v, Json.ofText text = .ok v ∧ v.array? = none := by
  rw [ofDocument]
  split
  case h_1 err hread =>
    rw [hread]
    exact ⟨nofun, fun ⟨v, h, _⟩ => nomatch h⟩
  case h_2 records hread =>
    rw [hread]
    refine ⟨nofun, fun ⟨v, h, hv⟩ => ?_⟩
    cases h
    cases hv
  case h_3 v hne hread =>
    refine ⟨fun _ => ⟨v, hread, ?_⟩, fun _ => rfl⟩
    cases v with
    | array items => exact absurd rfl (hne items)
    | _ => rfl

/-- Rules are taken from lists only. -/
theorem exists_array_of_ofDocument {text : String} {rules : List Rule}
    (h : ofDocument now text = .ok rules) : ∃ records, Json.ofText text = .ok (.array records) := by
  rw [ofDocument] at h
  split at h
  case h_1 => cases h
  case h_2 records hread => exact ⟨records, hread⟩
  case h_3 => cases h

/-- **What is taken from a document**, and that it is what is taken from a book with the same records. -/
theorem ofDocument_takes (now : Instant) (text : String) :
    (∀ text' e, ofDocument now text = .error (.notJson text' e) ↔
      text' = text ∧ Json.ofText text = .error e) ∧
    (ofDocument now text = .error .notArray ↔ ∃ v, Json.ofText text = .ok v ∧ v.array? = none) ∧
    (∀ records, Json.ofText text = .ok (.array records) →
      ofDocument now text = .ok (records.filterMap (taken? now)) ∧
      ((∀ v ∈ records, v.array? = none) →
        (∃ b, RuleBook.ofJson? now (.object [("rules", .array records)]) = some b ∧
          ofDocument now text = .ok (complete b.rules)) ∧
        ∀ wrapped, Json.membersOfBytes wrapped = .ok [("rules", .array records)] →
          ∃ b, RuleBook.ofBytes now wrapped = .ok b ∧ ofDocument now text = .ok (complete b.rules))) ∧
    ∀ rules, ofDocument now text = .ok rules →
      complete rules = rules ∧
      ∀ old now', Edit.apply now' old (.importRules rules) = .ok (old ++ rules) := by
  refine ⟨fun text' e => ofDocument_eq_notJson_iff, ofDocument_eq_notArray_iff, fun records h => ?_,
    fun rules h => ?_⟩
  · have htaken := ofDocument_of_array h now
    refine ⟨htaken, fun hrecords => ?_⟩
    have hbook : RuleBook.ofJson? now (.object [("rules", .array records)]) =
        some ⟨ofRecords now records, true⟩ := rfl
    have hcomplete : ofDocument now text = .ok (complete (ofRecords now records)) := by
      rw [htaken, complete_ofRecords hrecords]
    refine ⟨⟨_, hbook, hcomplete⟩, fun wrapped hwrapped => ?_⟩
    have hread := RuleBook.toOption_ofBytes_eq_ofJson? hwrapped (Nat.le_refl 1) (Nat.zero_le 1) now
    exact ⟨_, Json.toOption_eq_some.mp (hread.trans hbook), hcomplete⟩
  · obtain ⟨records, hread⟩ := exists_array_of_ofDocument h
    rw [ofDocument_of_array hread] at h
    obtain rfl := Except.ok.inj h
    have hcomplete := complete_filterMap_taken? now records
    refine ⟨hcomplete, fun old now' => ?_⟩
    rw [Edit.apply, hcomplete]

/-- A rule, a record with a number for a pattern and a number. -/
theorem ofDocument_takes_one :
    let text := "[\x7b\"urlPattern\":\"a\",\"responseContent\":\"b\"\x7d,\x7b\"urlPattern\":7\x7d,8]"
    let wrapped := Text.toBytes ("\x7b\"rules\":" ++ text ++ "\x7d")
    let r : Rule :=
      { (default : Rule) with urlPattern := "a", tag := .urlFilter, responseContent := "b", priority := 1 }
    ofDocument .epoch text = .ok [r] ∧
      (∃ b, RuleBook.ofBytes .epoch wrapped = .ok b ∧ complete b.rules = [r]) ∧
      Edit.apply .epoch [r] (.importRules [r]) = .ok [r, r] := by
  intro text wrapped r
  obtain ⟨records, hread, hwrapped, hlists, hrecords⟩ : ∃ records,
      Json.ofText text = .ok (.array records) ∧
      Json.membersOfBytes wrapped = .ok [("rules", .array records)] ∧
      records.all (fun v => v.array?.isNone) = true ∧ records.filterMap (taken? .epoch) = [r] :=
    ⟨_, rfl, rfl, rfl, rfl⟩
  obtain ⟨-, -, htakes, himported⟩ := ofDocument_takes .epoch text
  obtain ⟨htaken, hagrees⟩ := htakes records hread
  rw [hrecords] at htaken
  have hnone (v : Json) (hv : v ∈ records) : v.array? = none :=
    Option.isNone_iff_eq_none.mp (List.all_eq_true.mp hlists v hv)
  obtain ⟨b, hb, hsame⟩ := (hagrees hnone).2 wrapped hwrapped
  exact ⟨htaken, ⟨b, hb, Except.ok.inj (hsame.symm.trans htaken)⟩, (himported [r] htaken).2 [r] .epoch⟩

end ReplyRules.Rule
