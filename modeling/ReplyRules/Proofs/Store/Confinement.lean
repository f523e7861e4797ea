import ReplyRules.Store.RuleBook
import ReplyRules.Proofs.Json.Members

/-!
Which texts are those of books, and what the books are.  The text of a book is read member by member: the
list of the records and the switch may come up once each, all other members are passed over, and the records
are decoded one by one when everything has been read.  So only the two members decide whether a text is that
of a book (`exists_ofBytes_iff`), and a record that is no rule is only a rule less.

What is known of a part behind some members is told by the values for its key alone (`Json.once?`), and so
the text of an object is read as two independent parts (`foldlM_stepPart`, `toOption_ofBytes`).  If no part
is repeated, this is what is read from the value that the text holds (`toOption_ofBytes_eq_ofJson?`).

Main result: an object is a book exactly if the list and the switch, where they are there, are there once and
are of their kinds; its rules are then those of its records, one record after the other, and no record has a
part in what comes of another one (`ofBytes_of_object`).
-/

namespace ReplyRules

open Json (valuesOf lastValues membersOfBytes field?)

/-! ### Parts that may come up once -/

namespace Json

variable {α : Type} {decode : Json → Option α} {key : String} {members : List (String × Json)}

/-- What is known of a part behind some values for it: it may come up once, with a value that can be
decoded. -/
def once? (decode : Json → Option α) (known : Option α) : List Json → Option (Option α)
  | [] => some known
  | v :: vs => if known.isSome then none else (decode v).bind fun x => once? decode (some x) vs

theorem once?_eq_some_none {vs : List Json} : once? decode none vs = some none ↔ vs = [] := by
  cases vs with
  | nil => exact ⟨fun _ => rfl, fun _ => rfl⟩
  | cons v vs =>
    cases hv : decode v with
    | none => simp [once?, hv]
    | some x => cases vs <;> simp [once?, hv]

theorem once?_eq_some_some {vs : List Json} {x : α} :
    once? decode none vs = some (some x) ↔ ∃ v, vs = [v] ∧ decode v = some x := by
  cases vs with
  | nil => simp [once?]
  | cons v vs =>
    cases hv : decode v with
    | none => simp [once?, hv]
    | some y => cases vs <;> simp [once?, hv]

theorem isSome_once?_iff {vs : List Json} :
    (once? decode none vs).isSome ↔ vs = [] ∨ ∃ v x, vs = [v] ∧ decode v = some x := by
  rw [Option.isSome_iff_exists]
  constructor
  · rintro ⟨_ | x, h⟩
    · exact .inl (once?_eq_some_none.mp h)
    · obtain ⟨v, hv⟩ := once?_eq_some_some.mp h
      exact .inr ⟨v, x, hv⟩
  · rintro (h | ⟨v, x, hv⟩)
    · exact ⟨none, once?_eq_some_none.mpr h⟩
    · exact ⟨some x, once?_eq_some_some.mpr ⟨v, hv⟩⟩

/-- A field that comes up at most once is the same in the text and in the value. -/
theorem field?_lastValues (h : (valuesOf key members).length ≤ 1) (default : α) :
    field? key decode (some default) (object (lastValues members)) =
      (once? decode none (valuesOf key members)).map fun x => x.getD default := by
  rw [field?, member?_lastValues]
  match hvalues : valuesOf key members with
  | [] => rfl
  | [v] => cases hv : decode v <;> simp [once?, hv]
  | v :: w :: vs =>
    rw [hvalues] at h
    exact absurd h (by simp)

theorem array?_eq_some {v : Json} {items : List Json} : v.array? = some items ↔ v = .array items := by
  cases v <;> simp [array?]

theorem bool?_eq_some {v : Json} {b : Bool} : v.bool? = some b ↔ v = .bool b := by
  cases v <;> simp [bool?]

end Json

namespace RuleBook

variable {now : Instant} {text : Bytes} {members : List (String × Json)}

/-! ### The parts of a book -/

/-- What is known of a book behind a member. -/
def stepPart (parts : Parts) (entry : String × Json) : Option Parts :=
  if entry.1 == "rules" then
    if parts.records.isSome then none
    else entry.2.array?.map fun records => { parts with records := some records }
  else if entry.1 == "enabled" then
    if parts.enabled.isSome then none
    else entry.2.bool?.map fun enabled => { parts with enabled := some enabled }
  else some parts

theorem toOption_failRepeated {α : Type} (key : String) (bytes : Bytes) :
    (failRepeated key bytes : Except JsonError α).toOption = none := by
  rw [failRepeated]
  split <;> rfl

/-- A member of a book is read, or passed over, as its value tells. -/
theorem follows_readPart : Json.Follows readPart stepPart false recordsDepth := by
  refine ⟨fun {bytes v rest} h parts key => ?_⟩
  obtain ⟨text, hcolon, hvalue⟩ := bind_eq_ok.mp h
  -- by the key: the list is read, the switch is read, and any other value is passed over
  rw [readPart, stepPart]
  split
  case isTrue =>
    split
    case isTrue => exact toOption_failRepeated key bytes
    case isFalse =>
      have hlist : (Json.readList recordsDepth text).toOption = v.array?.map fun items => (items, rest) :=
        Json.toOption_readList hvalue
      rw [hcolon]
      show ((Json.readList recordsDepth text) >>= _).toOption = _
      rw [Json.toOption_bind, hlist]
      cases v.array? <;> rfl
  case isFalse =>
    split
    case isTrue =>
      split
      case isTrue => exact toOption_failRepeated key bytes
      case isFalse =>
        have hbool := Json.toOption_readBool hvalue
        rw [hcolon]
        show ((Json.readBool text) >>= _).toOption = _
        rw [Json.toOption_bind, hbool]
        cases v.bool? <;> rfl
    case isFalse =>
      have hskip := Json.skipValue_of_readValue hvalue
      rw [hcolon]
      show ((Json.skipValue text) >>= _).toOption = _
      rw [hskip]
      rfl

/-- Member by member, each of the two parts is read by itself. -/
theorem foldlM_stepPart (members : List (String × Json)) (parts : Parts) :
    members.foldlM stepPart parts =
      (Json.once? Json.array? parts.records (valuesOf "rules" members)).bind fun records =>
        (Json.once? Json.bool? parts.enabled (valuesOf "enabled" members)).map fun enabled =>
          ⟨records, enabled⟩ := by
  induction members generalizing parts with
  | nil => rfl
  | cons entry members ih =>
    rw [List.foldlM_cons, stepPart, Json.valuesOf_cons, Json.valuesOf_cons]
    -- the member is one of the list, one of the switch, or one of neither
    by_cases hrules : entry.1 = "rules"
    · have henabled : entry.1 ≠ "enabled" := by rw [hrules]; decide
      cases hknown : parts.records with
      | some records => simp [hrules, Json.once?]
      | none =>
        cases harray : entry.2.array? with
        | none => simp [hrules, harray, Json.once?]
        | some records => simp [hrules, harray, Json.once?, ih]
    · by_cases henabled : entry.1 = "enabled"
      · cases hknown : parts.enabled with
        | some enabled => simp [henabled, Json.once?]
        | none =>
          cases hbool : entry.2.bool? with
          | none => simp [henabled, hbool, Json.once?]
          | some enabled => simp [henabled, hbool, Json.once?, ih]
      · simp [hrules, henabled, ih]

/-- **What a text that is an object holds**, as a book. -/
theorem toOption_ofBytes (h : membersOfBytes text = .ok members) (now : Instant) :
    (ofBytes now text).toOption =
      (Json.once? Json.array? none (valuesOf "rules" members)).bind fun records =>
        (Json.once? Json.bool? none (valuesOf "enabled" members)).map fun enabled =>
          ofParts now ⟨records, enabled⟩ := by
  obtain ⟨bytes, rest, hskip, hmembers, hend⟩ := Json.membersOfBytes_eq_ok_iff.mp h
  have hparts : readParts text = Json.readMembers readPart ⟨none, none⟩ bytes := by
    rw [readParts, hskip]
    rfl
  have hread (parts : Parts) :
      (do
        Json.readEnd rest
        return ofParts now parts : Except JsonError RuleBook).toOption = some (ofParts now parts) := by
    rw [hend]
    rfl
  rw [ofBytes, Json.toOption_bind, hparts, hmembers.toOption_readMembers follows_readPart,
    foldlM_stepPart, Option.bind_map]
  simp only [Function.comp_def, hread, Option.bind_assoc, Option.bind_map]
  cases Json.once? Json.array? none (valuesOf "rules" members) with
  | none => rfl
  | some records => cases Json.once? Json.bool? none (valuesOf "enabled" members) <;> rfl

/-! ### Books as values -/

/-- The book of a value that is a record of the two parts. -/
def ofJson? (now : Instant) (v : Json) : Option RuleBook := do
  let record ← v.record? ["rules", "enabled"]
  return {
    rules := Rule.ofRecords now (← field? "rules" Json.array? (some []) record)
    enabled := ← field? "enabled" Json.bool? (some true) record }

/-- A text is read as the value that it holds, if none of the two parts is repeated. -/
theorem toOption_ofBytes_eq_ofJson? (h : membersOfBytes text = .ok members)
    (hrules : (valuesOf "rules" members).length ≤ 1) (henabled : (valuesOf "enabled" members).length ≤ 1)
    (now : Instant) : (ofBytes now text).toOption = ofJson? now (.object (lastValues members)) := by
  rw [toOption_ofBytes h, ofJson?]
  show _ = (field? "rules" Json.array? (some []) (.object (lastValues members))).bind fun records =>
    (field? "enabled" Json.bool? (some true) (.object (lastValues members))).bind fun enabled =>
      (some ⟨Rule.ofRecords now records, enabled⟩ : Option RuleBook)
  rw [Json.field?_lastValues hrules, Json.field?_lastValues henabled, Option.bind_map]
  refine congrArg _ (funext fun records => ?_)
  cases Json.once? Json.bool? none (valuesOf "enabled" members) <;> rfl

/-! ### No record spoils a book -/

/-- The rules of some records are those of each record, one after the other. -/
theorem ofRecords_eq_flatMap (now : Instant) (records : List Json) :
    Rule.ofRecords now records = records.flatMap fun v => (Rule.ofJson? now v).toList := by
  induction records with
  | nil => rfl
  | cons v records ih =>
    rw [List.flatMap_cons, ← ih, Rule.ofRecords, List.filterMap_cons]
    cases Rule.ofJson? now v <;> rfl

/-- **Which objects are books**: the records have no part in it. -/
theorem exists_ofBytes_iff (h : membersOfBytes text = .ok members) (now : Instant) :
    (∃ b, ofBytes now text = .ok b) ↔
      (valuesOf "rules" members = [] ∨ ∃ records, valuesOf "rules" members = [.array records]) ∧
      (valuesOf "enabled" members = [] ∨ ∃ enabled, valuesOf "enabled" members = [.bool enabled]) := by
  have hsome : (∃ b, ofBytes now text = .ok b) ↔ (ofBytes now text).toOption.isSome := by
    simp only [Option.isSome_iff_exists, Json.toOption_eq_some]
  have hboth {α β γ : Type} (x : Option α) (y : Option β) (f : α → β → γ) :
      (x.bind fun a => y.map fun b => f a b).isSome ↔ x.isSome ∧ y.isSome := by
    cases x <;> cases y <;> simp
  rw [hsome, toOption_ofBytes h, hboth, Json.isSome_once?_iff, Json.isSome_once?_iff]
  simp only [Json.array?_eq_some, Json.bool?_eq_some]
  constructor
  · rintro ⟨hrules, henabled⟩
    refine ⟨hrules.imp_right ?_, henabled.imp_right ?_⟩
    · rintro ⟨v, records, hv, rfl⟩
      exact ⟨records, hv⟩
    · rintro ⟨v, enabled, hv, rfl⟩
      exact ⟨enabled, hv⟩
  · rintro ⟨hrules, henabled⟩
    refine ⟨hrules.imp_right ?_, henabled.imp_right ?_⟩
    · rintro ⟨records, hv⟩
      exact ⟨_, records, hv, rfl⟩
    · rintro ⟨enabled, hv⟩
      exact ⟨_, enabled, hv, rfl⟩

/-- The parts of a book that was read. -/
theorem ofBytes_eq_ok {b : RuleBook} (h : membersOfBytes text = .ok members)
    (hb : ofBytes now text = .ok b) :
    ∃ records enabled, Json.once? Json.array? none (valuesOf "rules" members) = some records ∧
      Json.once? Json.bool? none (valuesOf "enabled" members) = some enabled ∧
      b = ofParts now ⟨records, enabled⟩ := by
  have hsome := Json.toOption_eq_some.mpr hb
  rw [toOption_ofBytes h] at hsome
  obtain ⟨records, hrecords, hsome⟩ := Option.bind_eq_some_iff.mp hsome
  obtain ⟨enabled, henabled, rfl⟩ := Option.map_eq_some_iff.mp hsome
  exact ⟨records, enabled, hrecords, henabled, rfl⟩

/-- **No record spoils a book.**  A text that is an object is that of a book exactly if the list of the records
and the switch are each missing, or there once and of their kinds.  The switch of the book is then the one
that is there, or is on, and its rules are those of the records, each decoded by itself; so where some of
the records are changed, put in or taken out, the others give the rules that they gave. -/
theorem ofBytes_of_object {o : List (String × Json)} (h : Json.ofBytes text = .ok (.object o))
    (now : Instant) :
    ∃ members, membersOfBytes text = .ok members ∧ lastValues members = o ∧
      ((∃ b, ofBytes now text = .ok b) ↔
        (valuesOf "rules" members = [] ∨ ∃ records, valuesOf "rules" members = [.array records]) ∧
        (valuesOf "enabled" members = [] ∨ ∃ enabled, valuesOf "enabled" members = [.bool enabled])) ∧
      ∀ b, ofBytes now text = .ok b →
        (valuesOf "enabled" members = [] → b.enabled = true) ∧
        (∀ enabled, valuesOf "enabled" members = [.bool enabled] → b.enabled = enabled) ∧
        (valuesOf "rules" members = [] → b.rules = []) ∧
        (∀ records, valuesOf "rules" members = [.array records] →
          b.rules = records.flatMap fun v => (Rule.ofJson? now v).toList) ∧
        ∀ front changed behind, valuesOf "rules" members = [.array (front ++ changed ++ behind)] →
          b.rules = Rule.ofRecords now front ++ Rule.ofRecords now changed ++ Rule.ofRecords now behind := by
  obtain ⟨members, hmembers, hlast⟩ := Json.ofBytes_eq_object_iff.mp h
  refine ⟨members, hmembers, hlast, exists_ofBytes_iff hmembers now, fun b hb => ?_⟩
  obtain ⟨records, enabled, hrecords, henabled, rfl⟩ := ofBytes_eq_ok hmembers hb
  have hlist (items : List Json) (hitems : valuesOf "rules" members = [.array items]) :
      (ofParts now ⟨records, enabled⟩).rules = Rule.ofRecords now items := by
    have hsome : Json.once? Json.array? none (valuesOf "rules" members) = some (some items) :=
      Json.once?_eq_some_some.mpr ⟨_, hitems, rfl⟩
    rw [hsome] at hrecords
    cases hrecords
    rfl
  refine ⟨fun hnone => ?_, fun value hvalue => ?_, fun hnone => ?_, fun items hitems => ?_,
    fun front changed behind hitems => ?_⟩
  · rw [Json.once?_eq_some_none.mpr hnone] at henabled
    cases henabled
    rfl
  · have hsome : Json.once? Json.bool? none (valuesOf "enabled" members) = some (some value) :=
      Json.once?_eq_some_some.mpr ⟨_, hvalue, rfl⟩
    rw [hsome] at henabled
    cases henabled
    rfl
  · rw [Json.once?_eq_some_none.mpr hnone] at hrecords
    cases hrecords
    rfl
  · rw [hlist items hitems, ofRecords_eq_flatMap]
  · rw [hlist _ hitems, Rule.ofRecords, List.filterMap_append, List.filterMap_append]
    rfl

/-- A number among the records and a key that is not known. -/
theorem ofBytes_number_among_records :
    let text := Text.toBytes "\x7b\"rules\":[7,\x7b\"note\":\"n\"\x7d],\"rule\":[8],\"enabled\":false\x7d"
    let r : Rule := { (default : Rule) with tag := .urlFilter, priority := 1, note := "n" }
    (∃ o, Json.ofBytes text = .ok (.object o)) ∧ ofBytes .epoch text = .ok ⟨[r], false⟩ := by
  intro text r
  let members : List (String × Json) :=
    [("rules", .array [.number (.natural 7), .object [("note", .string "n")]]),
      ("rule", .array [.number (.natural 8)]), ("enabled", .bool false)]
  have hobject : Json.ofBytes text = .ok (.object members) := rfl
  have hmembers : membersOfBytes text = .ok members := rfl
  refine ⟨⟨members, hobject⟩, ?_⟩
  obtain ⟨members', hread, -, hsuccess, hbook⟩ := ofBytes_of_object hobject .epoch
  rw [hmembers] at hread
  cases hread
  obtain ⟨b, hb⟩ := hsuccess.mpr ⟨.inr ⟨_, rfl⟩, .inr ⟨_, rfl⟩⟩
  obtain ⟨-, henabled, -, hrules, -⟩ := hbook b hb
  rw [hb]
  obtain ⟨rules, enabled⟩ := b
  obtain rfl : enabled = false := henabled false rfl
  obtain rfl : rules = [r] := hrules _ rfl
  rfl

end RuleBook

end ReplyRules
