import ReplyRules.Log.Entry
import ReplyRules.Proofs.Rule.Record
import ReplyRules.Proofs.Json.Known

/-!
Entries of the log and their records.  The record of an entry has no member for a value that is missing, so a
reader finds the default there, which is again no value (`Json.field?_optional`); its time is written to the
millisecond.  So a record is read as the entry with the time floored (`LogEntry.ofJson?_toJson`).

A text is one of an entry if it is an object with the members of its record, in whatever layout
(`LogEntry.IsTextOf`).  The reader of records finds these members in it, whatever else it would pass over or
refuse, since their values are texts and numbers.  What was read from a record has a time to the millisecond
already, so from then on nothing is lost.

Main result: `LogEntry.record_round_trip`.
-/

namespace ReplyRules

open Json (Fits IsScalar field? optional?)

theorem LogAction.ofTag?_tag (a : LogAction) : ofTag? a.tag = some a := by
  cases a with
  | registered => rfl
  | intercepted => rfl
  | error => rfl

theorem Instant.isScalar_toJson (t : Instant) : IsScalar t.toJson := by
  rw [toJson, Json.ofInt]
  split <;> trivial

namespace LogEntry

variable {e : LogEntry} {text : String} {v : Json}

/-! ### The record of an entry -/

/-- The entry with its time to the millisecond. -/
def floored (e : LogEntry) : LogEntry := { e with timestamp := e.timestamp.floorMillis }

/-- The members of the record of an entry. -/
def members (e : LogEntry) : List (String × Json) :=
  match e.toJson with
  | .object members => members
  | _ => []

theorem toJson_eq_members (e : LogEntry) : e.toJson = .object e.members := rfl

/-- The fields of a record are there in their order, but for those without a value. -/
theorem keys_members (e : LogEntry) :
    e.members.map (·.1) = fields.filter fun key =>
      (key != "ruleId" || e.ruleId.isSome) && (key != "detail" || e.detail.isSome) := by
  cases hid : e.ruleId <;> cases hdetail : e.detail <;> simp [members, toJson, fields, hid, hdetail]

/-- A field is left out exactly if it has no value. -/
theorem mem_keys_members_iff {key : String} :
    key ∈ e.members.map (·.1) ↔
      key ∈ fields ∧ (key = "ruleId" → e.ruleId ≠ none) ∧ (key = "detail" → e.detail ≠ none) := by
  rw [keys_members, List.mem_filter]
  simp [Decidable.imp_iff_not_or, Option.isSome_iff_ne_none]

theorem nodup_keys_members (e : LogEntry) : (e.members.map (·.1)).Nodup := by
  have hfields : fields.Nodup := by decide
  rw [keys_members]
  exact hfields.filter _

theorem mem_fields_of_mem_members {entry : String × Json} (h : entry ∈ e.members) : entry.1 ∈ fields := by
  exact (mem_keys_members_iff.mp (List.mem_map_of_mem h)).1

/-- What is true of texts, of rule numbers and of the time is true of the value of every member. -/
theorem forall_mem_members {P : Json → Prop} (hstring : ∀ s, P (.string s))
    (hnumber : ∀ n : UInt32, P (.ofNat n.toNat)) (htime : P e.timestamp.toJson) :
    ∀ entry ∈ e.members, P entry.2 := by
  simp only [members, toJson, List.forall_mem_append, List.forall_mem_singleton]
  -- what is always there, the rule, the detail, and the time
  refine ⟨⟨⟨?_, ?_⟩, ?_⟩, htime⟩
  · exact List.forall_mem_cons.mpr ⟨hstring _, List.forall_mem_singleton.mpr (hstring _)⟩
  · cases e.ruleId with
    | none => exact List.forall_mem_nil _
    | some id => exact List.forall_mem_singleton.mpr (hnumber id)
  · cases e.detail with
    | none => exact List.forall_mem_nil _
    | some detail => exact List.forall_mem_singleton.mpr (hstring detail)

theorem isScalar_of_mem_members : ∀ entry ∈ e.members, IsScalar entry.2 :=
  forall_mem_members (fun _ => trivial) (fun _ => trivial) e.timestamp.isScalar_toJson

theorem fits_of_mem_members (depth : Nat) : ∀ entry ∈ e.members, Fits depth entry.2 := by
  refine forall_mem_members .string (fun n => .number ?_) (e.timestamp.fits_toJson depth)
  exact Nat.le_trans (Nat.le_of_lt n.toNat_lt) (by decide)

/-! ### Reading a record -/

theorem field?_ruleId (e : LogEntry) :
    field? "ruleId" (optional? Json.uint32?) (some none) e.toJson = some e.ruleId := by
  rw [toJson_eq_members]
  refine Json.field?_optional (fun n : UInt32 => .ofNat n.toNat) e.nodup_keys_members
    (fun n h => ?_) (fun h => ?_) fun n => congrArg (Option.map some) (Json.uint32?_ofNat n)
  · simp [members, toJson, h]
  · simp [keys_members, h]

theorem field?_detail (e : LogEntry) :
    field? "detail" (optional? Json.text?) (some none) e.toJson = some e.detail := by
  rw [toJson_eq_members]
  refine Json.field?_optional .string e.nodup_keys_members (fun s h => ?_) (fun h => ?_)
    fun s => rfl
  · simp [members, toJson, h]
  · simp [keys_members, h]

/-- **The record of an entry is read as the entry**, with its time to the millisecond. -/
theorem ofJson?_toJson (e : LogEntry) : ofJson? e.toJson = some e.floored := by
  have hrecord : e.toJson.record? fields = some e.toJson := rfl
  have haction : ("action", .string e.action.tag) ∈ e.members := by simp [members, toJson]
  have htarget : ("target", .string e.target) ∈ e.members := by simp [members, toJson]
  have htime : ("timestamp", e.timestamp.toJson) ∈ e.members := by simp [members, toJson]
  have hfield {α : Type} {key : String} {v : Json} (h : (key, v) ∈ e.members) (decode : Json → Option α) :
      field? key decode none e.toJson = decode v :=
    Json.field?_of_mem e.nodup_keys_members h decode none
  -- field by field, in the order of the record
  rw [ofJson?]
  refine Option.bind_eq_some_iff.mpr ⟨_, hrecord, ?_⟩
  refine Option.bind_eq_some_iff.mpr ⟨_, (hfield haction _).trans e.action.ofTag?_tag, ?_⟩
  refine Option.bind_eq_some_iff.mpr ⟨e.target, hfield htarget _, ?_⟩
  refine Option.bind_eq_some_iff.mpr ⟨_, e.field?_ruleId, ?_⟩
  refine Option.bind_eq_some_iff.mpr ⟨_, e.field?_detail, ?_⟩
  refine Option.bind_eq_some_iff.mpr ⟨_, (hfield htime _).trans e.timestamp.ofJson?_toJson, ?_⟩
  rfl

/-- What was read from a record has a time to the millisecond. -/
theorem floored_of_ofJson? (h : ofJson? v = some e) : e.floored = e := by
  -- of all the fields only the time matters, and that has to be there
  obtain ⟨record, -, h⟩ := Option.bind_eq_some_iff.mp h
  iterate 4 obtain ⟨_, -, h⟩ := Option.bind_eq_some_iff.mp h
  obtain ⟨timestamp, htime, h⟩ := Option.bind_eq_some_iff.mp h
  cases h
  rw [field?] at htime
  split at htime
  case h_1 => rw [floored, Instant.floorMillis_of_ofJson? htime]
  case h_2 => cases htime

/-! ### Texts -/

/-- The text is an object that has the members of the record of the entry, in their order.  How they are
laid out, and which characters are written as escapes, does not matter. -/
def IsTextOf (e : LogEntry) (text : String) : Prop := Json.membersOfBytes (Text.toBytes text) = .ok e.members

theorem isTextOf_pretty (e : LogEntry) : e.IsTextOf e.toJson.pretty := by
  rw [toJson_eq_members]
  exact Json.membersOfBytes_pretty (fits_of_mem_members _)

theorem IsTextOf.ofText? (h : e.IsTextOf text) : LogEntry.ofText? text = some e.floored := by
  have hrecord : Json.recordOfText fields text = .ok e.toJson :=
    Json.recordOfText_of_members h e.nodup_keys_members (fun _ => mem_fields_of_mem_members)
      isScalar_of_mem_members
  rw [LogEntry.ofText?, hrecord]
  exact e.ofJson?_toJson

theorem floored_of_ofText? (h : ofText? text = some e) : e.floored = e := by
  rw [LogEntry.ofText?] at h
  split at h
  case h_1 => exact floored_of_ofJson? h
  case h_2 => cases h

/-- An entry that was read from a text is read from every text of it as it is. -/
theorem IsTextOf.ofText?_eq_some {text' : String} (h : e.IsTextOf text') (hread : LogEntry.ofText? text = some e) :
    LogEntry.ofText? text' = some e := by
  rw [h.ofText?, floored_of_ofText? hread]

/-- An entry that was read from a value is read from its record as it is. -/
theorem ofJson?_toJson_of_ofJson? (h : ofJson? v = some e) : ofJson? e.toJson = some e := by
  rw [ofJson?_toJson, floored_of_ofJson? h]

/-- **Every text of an entry is read as the entry**, with its time to the millisecond; what the printer
writes is one.  The fields without a value are not in it.

An entry that was read from a text, or from a value, has no time finer than that, and so is written and read
again as it is. -/
theorem record_round_trip :
    (∀ e : LogEntry,
      (∀ text, e.IsTextOf text →
        ofText? text = some { e with timestamp := e.timestamp.floorMillis }) ∧
      e.IsTextOf e.toJson.pretty ∧
      ofJson? e.toJson = some { e with timestamp := e.timestamp.floorMillis } ∧
      e.toJson = .object e.members ∧
      ∀ key, key ∈ e.members.map (·.1) ↔
        key ∈ fields ∧ (key = "ruleId" → e.ruleId ≠ none) ∧ (key = "detail" → e.detail ≠ none)) ∧
    (∀ (text : String) (e : LogEntry), ofText? text = some e →
      (∀ text', e.IsTextOf text' → ofText? text' = some e) ∧ ofText? e.toJson.pretty = some e) ∧
    (∀ (v : Json) (e : LogEntry), ofJson? v = some e → ofJson? e.toJson = some e) :=
  ⟨fun e => ⟨fun _ h => h.ofText?, e.isTextOf_pretty, e.ofJson?_toJson, e.toJson_eq_members,
      fun _ => mem_keys_members_iff⟩,
    fun _ e hread => ⟨fun _ h => h.ofText?_eq_some hread, e.isTextOf_pretty.ofText?_eq_some hread⟩,
    fun _ _ h => ofJson?_toJson_of_ofJson? h⟩

/-- A text without blanks, of an entry that was written between two milliseconds before 1970; and one with a
key that does not belong there and a detail of null, which is left out when the entry is written. -/
theorem record_round_trip_early :
    (let e : LogEntry := ⟨.error, "a\n\"", none, some "é", ⟨-1, by decide, by decide⟩⟩
    let text :=
      "\x7b\"action\":\"RULE_ERROR\",\"target\":\"a\\n\\\"\",\"detail\":\"\\u00e9\",\"timestamp\":-1\x7d"
    e.IsTextOf text ∧
      ofText? text = some { e with timestamp := ⟨-1000000, by decide, by decide⟩ }) ∧
    (let e : LogEntry := ⟨.intercepted, "", some 7, none, .epoch⟩
    let text := "\x7b\"timestamp\":0,\"detail\":null,\"ruleId\":7,\"x\":[1e999]," ++
      "\"action\":\x7b\"REQUEST_INTERCEPTED\":null\x7d,\"target\":\"\"\x7d"
    ofText? text = some e ∧ ofText? e.toJson.pretty = some e) := by
  refine ⟨⟨rfl, (record_round_trip.1 _).1 _ rfl⟩, ?_⟩
  intro e text
  have hread : ofText? text = some e := by decide +kernel
  exact ⟨hread, (record_round_trip.2.1 text e hread).2⟩

end LogEntry

end ReplyRules
