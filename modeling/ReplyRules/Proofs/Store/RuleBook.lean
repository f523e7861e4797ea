import ReplyRules.Store.RuleBook
import ReplyRules.Proofs.Rule.Record

/-!
Books are loaded as they were stored.  The text of a book is an object with two members, which are read one
after the other (`RuleBook.collects_readPart`); the list of the rules is read as a list of records, each of
which is read as the rule it was made of.  No record is dropped on the way.

Main result: what is stored is what is loaded, but for what is smaller than a millisecond; and what was
loaded is stored and loaded again as it is, unless it has times from a clock that goes finer
(`RuleBook.text_round_trip`).
-/

namespace ReplyRules

open Json (Fits Collects openObject skipBlank_cons readColon_colon)

namespace RuleBook

variable {now : Instant} {b : RuleBook} {indent : Nat}

/-! ### The parts of a book -/

/-- The rules are read first, and then the switch. -/
theorem collects_readPart {records : List Json} (h : Fits recordsDepth (.array records)) (enabled : Bool) :
    Collects readPart indent ⟨none, none⟩ [("rules", .array records), ("enabled", .bool enabled)]
      ⟨some records, some enabled⟩ := by
  have hrules : ∀ rest, Json.Ends rest → readPart ⟨none, none⟩ "rules"
      (Json.colonByte :: 0x20 :: (Text.encode (Json.chars indent (.array records)) ++ rest)) =
        .ok (⟨some records, none⟩, rest) := by
    intro rest _
    have hread : Json.readList recordsDepth
        (0x20 :: (Text.encode (Json.chars indent (.array records)) ++ rest)) = .ok (records, rest) :=
      Json.readList_chars h rest
    simp [readPart, readColon_colon, hread, bind, Except.bind, pure, Except.pure]
  refine .cons hrules (.cons (fun rest _ => ?_) .nil)
  simp [readPart, readColon_colon, Json.readBool_chars, bind, Except.bind, pure, Except.pure]

/-! ### The book -/

/-- The book with the times of its rules to the millisecond. -/
def floored (b : RuleBook) : RuleBook := ⟨b.rules.map Rule.floored, b.enabled⟩

/-- The book with its rules as their records tell them. -/
def retold (b : RuleBook) : RuleBook := ⟨b.rules.map Rule.retold, b.enabled⟩

theorem retold_eq_floored (h : ∀ r ∈ b.rules, r.responseType.IsNamed) : b.retold = b.floored := by
  rw [retold, Rule.map_retold_eq_floored h]
  rfl

theorem toText_floored (b : RuleBook) : b.floored.toText = b.toText := by
  simp only [toText, toJson, floored, Rule.map_toJson_floored]

/-- The list of the records and the switch are read as they were written. -/
theorem readParts_toText (b : RuleBook) :
    readParts (Text.toBytes b.toText) = .ok (⟨some (b.rules.map Rule.toJson), some b.enabled⟩, []) := by
  have hfits : Fits recordsDepth (.array (b.rules.map Rule.toJson)) := Rule.fits_listToJson b.rules 123
  obtain ⟨more, htext, hread⟩ := Json.readMembers_chars 0 (collects_readPart hfits b.enabled)
  have hmembers := hread []
  rw [List.append_nil] at hmembers
  have hbytes : Text.toBytes b.toText = openObject :: more := by
    rw [toText, Json.pretty, Text.toBytes_ofList]
    exact htext
  rw [readParts, hbytes, skipBlank_cons rfl]
  exact hmembers

/-- What is loaded is what the stored records tell. -/
theorem ofBytes_toText_eq_retold (b : RuleBook) (now : Instant) :
    ofBytes now (Text.toBytes b.toText) = .ok b.retold := by
  rw [ofBytes, readParts_toText]
  show Except.ok (ofParts now _) = _
  rw [ofParts, Option.getD_some, Option.getD_some, Rule.ofRecords_map_toJson]
  rfl

/-- **What is stored is what is loaded**, but for what is smaller than a millisecond. -/
theorem ofBytes_toText (h : ∀ r ∈ b.rules, r.responseType.IsNamed) (now : Instant) :
    ofBytes now (Text.toBytes b.toText) = .ok b.floored := by
  rw [ofBytes_toText_eq_retold, retold_eq_floored h]

/-- The rules of a book that was loaded are rules that were read from records. -/
theorem recorded_of_ofBytes {text : Bytes} (h : ofBytes now text = .ok b) :
    ∀ r ∈ b.rules, r.Recorded now := by
  rw [ofBytes] at h
  rcases hparts : readParts text with err | ⟨parts, rest⟩
  · rw [hparts] at h
    cases h
  rcases hend : Json.readEnd rest with err | ⟨⟩
  · simp [hparts, hend, bind, Except.bind] at h
  have hb : ofParts now parts = b := by
    simpa [hparts, hend, bind, Except.bind, pure, Except.pure] using h
  rw [← hb]
  exact fun r hr => Rule.recorded_of_mem_ofRecords hr

/-- What was loaded is loaded again to the millisecond. -/
theorem ofText_toText_of_ofBytes {text : Bytes} (h : ofBytes now text = .ok b) (now' : Instant) :
    ofText now' b.toText = .ok b.floored :=
  ofBytes_toText (fun r hr => (recorded_of_ofBytes h r hr).isNamed) now'

/-- What was loaded is to the millisecond, unless the clock goes finer and some times are the clock's. -/
theorem floored_eq_self_iff {text : Bytes} (h : ofBytes now text = .ok b) :
    b.floored = b ↔ now.floorMillis = now ∨ ∀ r ∈ b.rules, r.createdAt ≠ now ∧ r.updatedAt ≠ now := by
  have hmap : b.rules.map Rule.floored = b.rules.map id ↔ ∀ r ∈ b.rules, r.floored = r :=
    List.map_inj_left
  rw [List.map_id] at hmap
  have hbook : b.floored = b ↔ b.rules.map Rule.floored = b.rules :=
    ⟨congrArg rules, congrArg (RuleBook.mk · b.enabled)⟩
  rw [hbook, hmap]
  constructor
  · intro hall
    by_cases hclock : now.floorMillis = now
    · exact .inl hclock
    · exact .inr fun r hr => ((recorded_of_ofBytes h r hr).floored_eq_iff.mp (hall r hr)).resolve_left hclock
  · exact fun hclock r hr =>
      (recorded_of_ofBytes h r hr).floored_eq_iff.mpr (hclock.imp_right fun hall => hall r hr)

/-- **What is stored is what is loaded**: the switch is the same, and so are the rules in their order, each
with its times to the millisecond, whatever the time is now, if only their types have names.

So a book that was loaded is loaded again to the millisecond, and is stored again as the same text.  Only the
times that its text did not tell are the clock's; if there are any, and the clock goes finer than a
millisecond, the book that is loaded again is another one, and otherwise it is the same. -/
theorem text_round_trip :
    (∀ (b : RuleBook) (now : Instant), (∀ r ∈ b.rules, r.responseType.IsNamed) →
      ofText now b.toText = .ok ⟨b.rules.map Rule.floored, b.enabled⟩) ∧
    (∀ (b : RuleBook) (now : Instant) (text : Bytes), ofBytes now text = .ok b →
      (∀ now', ofText now' b.toText = .ok b.floored) ∧ b.floored.toText = b.toText ∧
      ∀ now', (ofText now' b.toText = .ok b ↔
        now.floorMillis = now ∨ ∀ r ∈ b.rules, r.createdAt ≠ now ∧ r.updatedAt ≠ now)) := by
  refine ⟨fun b now h => ofBytes_toText h now, fun b now text h => ?_⟩
  refine ⟨ofText_toText_of_ofBytes h, b.toText_floored, fun now' => ?_⟩
  rw [ofText_toText_of_ofBytes h, Except.ok.injEq, floored_eq_self_iff h]

/-- A rule that was changed between two milliseconds, and a list with a record that tells nothing. -/
theorem text_round_trip_late :
    (let r : Rule := { (default : Rule) with
      urlPattern := "a\n\"\u00e9"
      updatedAt := ⟨1999999, by decide, by decide⟩ }
    ofText .epoch (toText ⟨[r], false⟩) =
      .ok ⟨[{ r with updatedAt := ⟨1000000, by decide, by decide⟩ }], false⟩) ∧
    (let r : Rule := { (default : Rule) with tag := .urlFilter, priority := 1 }
    ofBytes .epoch (Text.toBytes "[[\x7b\x7d]]") = .ok ⟨[r], true⟩ ∧
      ∀ now, ofText now (toText ⟨[r], true⟩) = .ok ⟨[r], true⟩) := by
  refine ⟨?_, ?_⟩
  · exact text_round_trip.1 _ .epoch (List.forall_mem_singleton.mpr ⟨"html", by decide⟩)
  · have hread : ofBytes .epoch (Text.toBytes "[[\x7b\x7d]]") =
        .ok ⟨[{ (default : Rule) with tag := .urlFilter, priority := 1 }], true⟩ := rfl
    exact ⟨hread, fun now => ((text_round_trip.2 _ .epoch _ hread).2.2 now).mpr (.inl rfl)⟩

/-- A record that tells nothing has the clock's times.  Where the clock stands between two milliseconds, what
was loaded is not what is loaded again. -/
theorem ofText_toText_ne_between_milliseconds :
    let now : Instant := ⟨500000, by decide, by decide⟩
    ∃ b, ofBytes now (Text.toBytes "\x7b\"rules\":[\x7b\x7d]\x7d") = .ok b ∧
      ∀ now', ofText now' b.toText ≠ .ok b := by
  intro now
  let r : Rule :=
    { (default : Rule) with tag := .urlFilter, priority := 1, createdAt := now, updatedAt := now }
  have hread : ofBytes now (Text.toBytes "\x7b\"rules\":[\x7b\x7d]\x7d") = .ok ⟨[r], true⟩ := rfl
  refine ⟨⟨[r], true⟩, hread, fun now' hsame => ?_⟩
  rw [ofText_toText_of_ofBytes hread, Except.ok.injEq] at hsame
  exact absurd hsame (by decide)

end RuleBook

end ReplyRules
