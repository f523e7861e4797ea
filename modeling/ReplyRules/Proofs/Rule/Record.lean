import ReplyRules.Rule.Record
import ReplyRules.Proofs.Json.RoundTrip

/-!
Rules and their records.  The record of a rule is read as the rule again, but for what of its times is
smaller than a millisecond, which is not written (`Rule.floored`).  A record tells the type of a response by
its name; a type that no name stands for, as it has the name of another one, cannot be told
(`ResponseType.IsNamed`), and is read as the other one (`Rule.retold`).

Main results: a record is read as the rule that it tells (`Rule.ofJson?_toJson`), which is the rule it was
made of if its type has a name (`Rule.retold_eq_floored`); it can be read from a text (`Rule.fits_toJson`);
and every rule that is read from a record has a type with a name and times to the
millisecond, or those of the clock (`Rule.Recorded`).
-/

namespace ReplyRules

open Json (Fits field? optional? listOf?)

/-! ### The values of the fields -/

namespace ResponseType

/-- There is a name that stands for the type. -/
def IsNamed (t : ResponseType) : Prop := ∃ name, ofName name = t

/-- A type that a name stands for is the one its own name stands for. -/
theorem IsNamed.ofName_name {t : ResponseType} (h : t.IsNamed) : ofName t.name = t := by
  obtain ⟨name, rfl⟩ := h
  cases hlookup : knownNames.lookup (lowerAscii name) with
  | none =>
    have hother : ofName name = other name := by rw [ofName, hlookup, Option.getD_none]
    rw [hother]
    exact hother
  | some t =>
    have hknown : ofName name = t := by rw [ofName, hlookup, Option.getD_some]
    have hnames : ∀ known ∈ knownNames, ofName known.2.name = known.2 := by decide
    obtain ⟨before, after, hsplit, -⟩ := List.lookup_eq_some_iff.mp hlookup
    rw [hknown]
    exact hnames (lowerAscii name, t) (by simp [hsplit])

/-- Of a type only its name is stored. -/
theorem ofJson?_toJson (t : ResponseType) : ofJson? t.toJson = some (ofName t.name) := rfl

theorem isNamed_of_ofJson? {v : Json} {t : ResponseType} (h : ofJson? v = some t) : t.IsNamed := by
  obtain ⟨name, -, hname⟩ := Option.map_eq_some_iff.mp h
  exact ⟨name, hname⟩

end ResponseType

theorem ResourceKind.ofJson?_toJson (k : ResourceKind) : ofJson? k.toJson = some k := k.ofName?_name

theorem MatchType.ofJson?_toJson (m : MatchType) : ofJson? m.toJson = some m := m.ofName?_name

theorem PatternTag.ofJson?_toJson (t : PatternTag) : ofJson? t.toJson = some t := t.ofName?_name

theorem Json.uint32?_ofNat (n : UInt32) : uint32? (ofNat n.toNat) = some n := by
  have hlt : n.toNat < Nat.pow 2 32 := n.toNat_lt
  rw [ofNat, uint32?, if_pos hlt, UInt32.ofNat_toNat]

theorem Json.listOf?_map {α : Type} {toJson : α → Json} {ofJson? : Json → Option α}
    (h : ∀ x, ofJson? (toJson x) = some x) (xs : List α) :
    listOf? ofJson? (.array (xs.map toJson)) = some xs := by
  show (xs.map toJson).mapM ofJson? = some xs
  induction xs with
  | nil => rfl
  | cons x xs ih => simp [h, ih]

/-- Where no key is there twice, every member is found. -/
theorem Json.member?_of_mem {members : List (String × Json)} {key : String} {v : Json}
    (hkeys : (members.map (·.1)).Nodup) (h : (key, v) ∈ members) :
    (object members).member? key = some v := by
  induction members with
  | nil => cases h
  | cons keyed members ih =>
    rw [List.map_cons, List.nodup_cons] at hkeys
    rw [member?, List.find?_cons]
    rcases List.mem_cons.mp h with rfl | h
    · simp
    · have hne : keyed.1 ≠ key := by
        rintro rfl
        exact hkeys.1 (List.mem_map.mpr ⟨(keyed.1, v), h, rfl⟩)
      rw [beq_eq_false_iff_ne.mpr hne]
      exact ih hkeys.2 h

/-- A field of a record is read from its member. -/
theorem Json.field?_of_mem {α : Type} {members : List (String × Json)} {key : String} {v : Json}
    (hkeys : (members.map (·.1)).Nodup) (h : (key, v) ∈ members) (decode : Json → Option α)
    (default : Option α) : field? key decode default (.object members) = decode v := by
  rw [field?, member?_of_mem hkeys h]

/-- Where the key is missing, the default stands for the field. -/
theorem Json.field?_of_notMem {α : Type} {members : List (String × Json)} {key : String}
    (h : key ∉ members.map (·.1)) (decode : Json → Option α) (default : Option α) :
    field? key decode default (.object members) = default := by
  have hnone : members.find? (·.1 == key) = none := by
    rw [List.find?_eq_none]
    intro keyed hkeyed hsame
    exact h (List.mem_map.mpr ⟨keyed, hkeyed, beq_iff_eq.mp hsame⟩)
  rw [field?, member?, hnone, Option.map_none]

/-- A field that is left out where there is no value is read as it was. -/
theorem Json.field?_optional {α : Type} {members : List (String × Json)} {key : String}
    {decode : Json → Option α} {value : Option α} (toJson : α → Json)
    (hkeys : (members.map (·.1)).Nodup)
    (hsome : ∀ x, value = some x → (key, toJson x) ∈ members)
    (hnone : value = none → key ∉ members.map (·.1))
    (hread : ∀ x, optional? decode (toJson x) = some (some x)) :
    field? key (optional? decode) (some none) (.object members) = some value := by
  cases value with
  | none => exact field?_of_notMem (hnone rfl) _ _
  | some x => rw [field?_of_mem hkeys (hsome x rfl), hread]

/-- What is true of every value that can be read and of the default is true of the value of a field. -/
theorem Json.of_field? {α : Type} {key : String} {decode : Json → Option α} {default x : α}
    {record : Json} {P : α → Prop} (h : field? key decode (some default) record = some x)
    (hdecode : ∀ v x, decode v = some x → P x) (hdefault : P default) : P x := by
  rw [field?] at h
  split at h
  · exact hdecode _ _ h
  · cases h
    exact hdefault

theorem Json.int?_ofInt (i : Int) : int? (ofInt i) = some i := by
  rw [ofInt]
  split
  case isTrue hneg =>
    show some (-(i.natAbs : Int)) = some i
    rw [Int.ofNat_natAbs_of_nonpos (Int.le_of_lt hneg), Int.neg_neg]
  case isFalse hneg =>
    show some (i.toNat : Int) = some i
    rw [Int.toNat_of_nonneg (Int.not_lt.mp hneg)]

namespace Instant

theorem millis_floorMillis (t : Instant) : t.floorMillis.millis = t.millis :=
  Int.mul_ediv_cancel t.millis (by decide)

theorem toJson_floorMillis (t : Instant) : t.floorMillis.toJson = t.toJson := by
  rw [toJson, millis_floorMillis, toJson]

/-- What is smaller than a millisecond is lost. -/
theorem ofJson?_toJson (t : Instant) : ofJson? t.toJson = some t.floorMillis := by
  rw [ofJson?, toJson, Json.int?_ofInt, Option.bind_some, ofMillis?_millis]

/-- Milliseconds can be written with 64 bits. -/
theorem fits_toJson (t : Instant) (depth : Nat) : Fits depth t.toJson := by
  obtain ⟨hfirst, hlast⟩ := t.millis_bounds
  have hwhole : ∀ n : Nat, (n : Int) ≤ -minMillis → n ≤ Nat.pow 2 63 ∧ n ≤ Json.maxNatural := by
    intro n hn
    have hbound : -minMillis ≤ (Nat.pow 2 63 : Nat) := by decide
    have hle : n ≤ Nat.pow 2 63 := by omega
    exact ⟨hle, Nat.le_trans hle (by decide)⟩
  have hends : maxMillis ≤ -minMillis := by decide
  rw [toJson, Json.ofInt]
  split
  case isTrue hneg => exact .number ⟨by omega, (hwhole _ (by omega)).1⟩
  case isFalse hneg => exact .number (hwhole _ (by omega)).2

theorem floorMillis_of_ofJson? {v : Json} {t : Instant} (h : ofJson? v = some t) : t.floorMillis = t := by
  obtain ⟨ms, -, hms⟩ := Option.bind_eq_some_iff.mp h
  rw [ofMillis?] at hms
  split at hms
  case isTrue hbounds =>
    cases hms
    simp only [floorMillis, millis, mk.injEq]
    rw [Int.mul_ediv_cancel ms (by decide)]
  case isFalse => cases hms

end Instant

/-! ### Records -/

namespace Rule

/-- The rule with times to the millisecond. -/
def floored (r : Rule) : Rule :=
  { r with createdAt := r.createdAt.floorMillis, updatedAt := r.updatedAt.floorMillis }

theorem toJson_floored (r : Rule) : r.floored.toJson = r.toJson := by
  simp only [toJson, floored, Instant.toJson_floorMillis]

theorem map_toJson_floored (rules : List Rule) : (rules.map floored).map toJson = rules.map toJson := by
  rw [List.map_map]
  exact List.map_congr_left fun r _ => r.toJson_floored

/-- The rule as its record tells it: with times to the millisecond, and with the type that the name of
its type stands for. -/
def retold (r : Rule) : Rule := { r.floored with responseType := .ofName r.responseType.name }

theorem retold_eq_floored {r : Rule} (h : r.responseType.IsNamed) : r.retold = r.floored := by
  rw [retold, h.ofName_name]
  rfl

/-- The members of the record of a rule. -/
def members (r : Rule) : List (String × Json) :=
  match r.toJson with
  | .object members => members
  | _ => []

theorem toJson_eq_members (r : Rule) : r.toJson = .object r.members := rfl

theorem nodup_keys_members (r : Rule) : (r.members.map (·.1)).Nodup := by
  cases hkind : r.patternKind <;> simp [members, toJson, hkind]

/-- A field of a record is read from its member. -/
theorem field?_toJson {α : Type} {r : Rule} {key : String} {v : Json} (h : (key, v) ∈ r.members)
    (decode : Json → Option α) (default : Option α) : field? key decode default r.toJson = decode v :=
  Json.field?_of_mem r.nodup_keys_members h decode default

theorem field?_patternKind (r : Rule) :
    field? "patternKind" (optional? MatchType.ofJson?) (some none) r.toJson = some r.patternKind := by
  refine Json.field?_optional MatchType.toJson r.nodup_keys_members (fun m h => ?_) (fun h => ?_)
    fun m => congrArg (Option.map some) m.ofJson?_toJson
  · simp [h]
  · simp [h]

theorem field?_resourceTypes (r : Rule) :
    field? "resourceTypes" (optional? (listOf? ResourceKind.ofJson?)) (some none) r.toJson =
      some r.resourceTypes := by
  cases hkinds : r.resourceTypes with
  | none =>
    have hmem : ("resourceTypes", .null) ∈ r.members := by simp [members, toJson, hkinds]
    rw [field?_toJson hmem]
    rfl
  | some kinds =>
    have hmem : ("resourceTypes", .array (kinds.map ResourceKind.toJson)) ∈ r.members := by
      simp [members, toJson, hkinds]
    rw [field?_toJson hmem]
    exact congrArg (Option.map some) (Json.listOf?_map ResourceKind.ofJson?_toJson kinds)

/-- **A record is read as the rule that it tells.** -/
theorem ofJson?_toJson (r : Rule) (now : Instant) : ofJson? now r.toJson = some r.retold := by
  have hrecord : r.toJson.record? fields = some r.toJson := rfl
  have hurl : ("urlPattern", .string r.urlPattern) ∈ r.members := by simp [members, toJson]
  have horiginal : ("originalPattern", .string r.originalPattern) ∈ r.members := by
    simp [members, toJson]
  have htag : ("matchType", r.tag.toJson) ∈ r.members := by simp [members, toJson]
  have htype : ("responseType", r.responseType.toJson) ∈ r.members := by simp [members, toJson]
  have hcontent : ("responseContent", .string r.responseContent) ∈ r.members := by
    simp [members, toJson]
  have hpriority : ("priority", Json.ofNat r.priority.toNat) ∈ r.members := by simp [members, toJson]
  have henabled : ("enabled", .bool r.enabled) ∈ r.members := by simp [members, toJson]
  have hnote : ("note", .string r.note) ∈ r.members := by simp [members, toJson]
  have hcreated : ("createdAt", r.createdAt.toJson) ∈ r.members := by simp [members, toJson]
  have hupdated : ("updatedAt", r.updatedAt.toJson) ∈ r.members := by simp [members, toJson]
  -- field by field, in the order of the record
  rw [ofJson?]
  refine Option.bind_eq_some_iff.mpr ⟨_, hrecord, ?_⟩
  refine Option.bind_eq_some_iff.mpr ⟨r.urlPattern, field?_toJson hurl _ _, ?_⟩
  refine Option.bind_eq_some_iff.mpr ⟨r.originalPattern, field?_toJson horiginal _ _, ?_⟩
  refine Option.bind_eq_some_iff.mpr ⟨_, (field?_toJson htag _ _).trans r.tag.ofJson?_toJson, ?_⟩
  refine Option.bind_eq_some_iff.mpr ⟨_, field?_patternKind r, ?_⟩
  refine Option.bind_eq_some_iff.mpr
    ⟨_, (field?_toJson htype _ _).trans r.responseType.ofJson?_toJson, ?_⟩
  refine Option.bind_eq_some_iff.mpr ⟨r.responseContent, field?_toJson hcontent _ _, ?_⟩
  refine Option.bind_eq_some_iff.mpr ⟨_, field?_resourceTypes r, ?_⟩
  refine Option.bind_eq_some_iff.mpr
    ⟨_, (field?_toJson hpriority _ _).trans (Json.uint32?_ofNat r.priority), ?_⟩
  refine Option.bind_eq_some_iff.mpr ⟨r.enabled, field?_toJson henabled _ _, ?_⟩
  refine Option.bind_eq_some_iff.mpr ⟨r.note, field?_toJson hnote _ _, ?_⟩
  refine Option.bind_eq_some_iff.mpr
    ⟨_, (field?_toJson hcreated _ _).trans r.createdAt.ofJson?_toJson, ?_⟩
  refine Option.bind_eq_some_iff.mpr
    ⟨_, (field?_toJson hupdated _ _).trans r.updatedAt.ofJson?_toJson, ?_⟩
  rfl

/-- Of the records of rules none is dropped. -/
theorem ofRecords_map_toJson (rules : List Rule) (now : Instant) :
    ofRecords now (rules.map toJson) = rules.map retold := by
  rw [ofRecords, List.filterMap_map]
  have hread : ofJson? now ∘ toJson = some ∘ retold := funext fun r => ofJson?_toJson r now
  rw [hread, ← List.filterMap_map, List.filterMap_some]

theorem map_retold_eq_floored {rules : List Rule} (h : ∀ r ∈ rules, r.responseType.IsNamed) :
    rules.map retold = rules.map floored :=
  List.map_congr_left fun r hr => retold_eq_floored (h r hr)

/-- The record of a rule can be written and read. -/
theorem fits_toJson (r : Rule) (depth : Nat) : Fits (depth + 2) r.toJson := by
  have hpriority : Json.IsWhole (.natural r.priority.toNat) :=
    Nat.le_trans (Nat.le_of_lt r.priority.toNat_lt) (by decide)
  refine .object r.nodup_keys_members ?_
  simp only [List.forall_mem_append, List.forall_mem_cons, List.not_mem_nil, false_implies, implies_true,
    and_true]
  refine ⟨⟨⟨.string _, .string _, .string _⟩, ?_⟩, .string _, .string _, ?_, .number hpriority, .bool _,
    .string _, r.createdAt.fits_toJson _, r.updatedAt.fits_toJson _⟩
  · cases r.patternKind with
    | none => exact List.forall_mem_nil _
    | some kind => exact List.forall_mem_singleton.mpr (.string kind.name)
  · cases r.resourceTypes with
    | none => exact .null
    | some kinds => exact .array (List.forall_mem_map.mpr fun kind _ => .string kind.name)

/-- The records of some rules can be written and read as a list. -/
theorem fits_listToJson (rules : List Rule) (depth : Nat) :
    Fits (depth + 3) (.array (rules.map toJson)) :=
  .array (List.forall_mem_map.mpr fun r _ => r.fits_toJson depth)

/-- What is known of a rule that was read at the time `now`: its type has a name, and its times are to the
millisecond, or that of the clock. -/
structure Recorded (now : Instant) (r : Rule) : Prop where
  isNamed : r.responseType.IsNamed
  createdAt : r.createdAt.floorMillis = r.createdAt ∨ r.createdAt = now
  updatedAt : r.updatedAt.floorMillis = r.updatedAt ∨ r.updatedAt = now

theorem recorded_of_ofJson? {now : Instant} {v : Json} {r : Rule} (h : ofJson? now v = some r) :
    r.Recorded now := by
  -- of all the fields only the type and the times matter
  obtain ⟨record, -, h⟩ := Option.bind_eq_some_iff.mp h
  iterate 4 obtain ⟨_, -, h⟩ := Option.bind_eq_some_iff.mp h
  obtain ⟨responseType, htype, h⟩ := Option.bind_eq_some_iff.mp h
  iterate 5 obtain ⟨_, -, h⟩ := Option.bind_eq_some_iff.mp h
  obtain ⟨createdAt, hcreated, h⟩ := Option.bind_eq_some_iff.mp h
  obtain ⟨updatedAt, hupdated, h⟩ := Option.bind_eq_some_iff.mp h
  cases h
  have htime {key : String} {t : Instant} (ht : field? key Instant.ofJson? (some now) record = some t) :
      t.floorMillis = t ∨ t = now :=
    Json.of_field? (P := fun t => t.floorMillis = t ∨ t = now) ht
      (fun _ _ hread => .inl (Instant.floorMillis_of_ofJson? hread)) (.inr rfl)
  have hnamed : responseType.IsNamed :=
    Json.of_field? htype (fun _ _ => ResponseType.isNamed_of_ofJson?) ⟨"html", by decide⟩
  exact ⟨hnamed, htime hcreated, htime hupdated⟩

theorem recorded_of_mem_ofRecords {now : Instant} {records : List Json} {r : Rule}
    (h : r ∈ ofRecords now records) : r.Recorded now := by
  obtain ⟨v, -, hv⟩ := List.mem_filterMap.mp h
  exact recorded_of_ofJson? hv

/-- A rule that was read has no times finer than a millisecond, unless it has one from a clock that goes
finer. -/
theorem Recorded.floored_eq_iff {now : Instant} {r : Rule} (h : r.Recorded now) :
    r.floored = r ↔ now.floorMillis = now ∨ r.createdAt ≠ now ∧ r.updatedAt ≠ now := by
  constructor
  · intro hfloored
    by_cases hclock : now.floorMillis = now
    · exact .inl hclock
    · -- a time that is the clock's would be to the millisecond
      refine .inr ⟨?_, ?_⟩ <;> rintro rfl
      · exact hclock (congrArg Rule.createdAt hfloored)
      · exact hclock (congrArg Rule.updatedAt hfloored)
  · intro hclock
    have hwhole {t : Instant} (ht : t.floorMillis = t ∨ t = now)
        (hclock : now.floorMillis = now ∨ t ≠ now) : t.floorMillis = t := by
      rcases ht with ht | rfl
      · exact ht
      · exact hclock.resolve_right fun hne => hne rfl
    rw [floored, hwhole h.createdAt (hclock.imp_right And.left),
      hwhole h.updatedAt (hclock.imp_right And.right)]

end Rule

end ReplyRules
