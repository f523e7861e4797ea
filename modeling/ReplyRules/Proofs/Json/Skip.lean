import ReplyRules.Proofs.Json.RoundTrip
import ReplyRules.Proofs.Json.SkipScalar

/-!
Values that are passed over.  A value is read by a recursion on how deep it may go; it is passed over by a
loop that keeps the open brackets in a list.  A state of the loop is a place in the text and these brackets
(`SkipState`).  One state *leads* to another when the loop comes from one to the other in as many steps as
there is room for, whatever stands around them (`SkipState.Leads`): two steps for each byte, and one from an
opening bracket to what stands behind it.

Each step of the loop leads from a state to the next one, and leading is transitive.  Along the elements of
a list, or the members of an object, this gives that the loop goes from behind the opening bracket to behind
the closing one (`SkipsWith.readItems`, `SkipsMembers.readMembers`), once it does so for what is inside; and
so, by induction on the depth, from the beginning of every value that can be read to its end
(`skipsWith_readValue`).

Main result: what can be read can be passed over, up to the same place (`skipValue_of_readValue`).
-/

namespace ReplyRules.Json

variable {bytes text rest : Bytes} {b : UInt8} {distinct : Bool} {depth : Nat} {v : Json}

/-! ### How a value is read -/

/-- How a value is read, from behind its first byte. -/
inductive ReadBehind (distinct : Bool) : Nat → UInt8 → Bytes → Json → Bytes → Prop
  | list {depth : Nat} {text rest : Bytes} {items : List Json}
      (h : readItems (readValue distinct depth) text = .ok (items, rest)) :
      ReadBehind distinct (depth + 1) openList text (.array items) rest
  | object {depth : Nat} {text rest : Bytes} {members : List (String × Json)}
      (h : readMembers (valueMember distinct depth) [] text = .ok (members, rest)) :
      ReadBehind distinct (depth + 1) openObject text (.object members) rest
  | scalar {depth : Nat} {b : UInt8} {text rest : Bytes} {v : Json} (hlist : b ≠ openList)
      (hobject : b ≠ openObject) (h : readScalar? b text = some (.ok (v, rest))) :
      ReadBehind distinct depth b text v rest

theorem exists_readBehind (h : readValue distinct depth bytes = .ok (v, rest)) :
    ∃ b text, skipBlank bytes = b :: text ∧ ReadBehind distinct depth b text v rest := by
  rw [readValue] at h
  split at h
  case h_1 => cases h
  case h_2 b text hskip =>
    refine ⟨b, text, hskip, ?_⟩
    split at h
    case isTrue hlist =>
      cases depth with
      | zero => cases h
      | succ depth =>
        obtain ⟨⟨items, rest⟩, hitems, h⟩ := bind_eq_ok.mp h
        cases h
        rw [beq_iff_eq.mp hlist]
        exact .list hitems
    case isFalse hlist =>
      split at h
      case isTrue hobject =>
        cases depth with
        | zero => cases h
        | succ depth =>
          obtain ⟨⟨members, rest⟩, hmembers, h⟩ := bind_eq_ok.mp h
          cases h
          rw [beq_iff_eq.mp hobject]
          exact .object hmembers
      case isFalse hobject =>
        split at h
        case h_1 read hread =>
          rw [h] at hread
          exact .scalar (fun hb => hlist (beq_iff_eq.mpr hb)) (fun hb => hobject (beq_iff_eq.mpr hb)) hread
        case h_2 => cases h

/-- A byte is told by the character of the same number. -/
theorem eq_ofNat_of_ofNat_eq {c : Char} (h : Char.ofNat b.toNat = c) : b = UInt8.ofNat c.toNat := by
  have hvalid : b.toNat.isValidChar := .inl (Nat.lt_trans b.toNat_lt (by decide))
  have htoNat : (Char.ofNat b.toNat).toNat = b.toNat := by
    rw [Char.ofNat, dif_pos hvalid]
    rfl
  rw [← h, htoNat, UInt8.ofNat_toNat]

theorem literal?_eq_some {word : Bytes} (h : literal? b = some (word, v)) :
    (b = 0x6E ∧ word = Text.toBytes "ull" ∧ v = .null) ∨
      (b = 0x74 ∧ word = Text.toBytes "rue" ∧ v = .bool true) ∨
        b = 0x66 ∧ word = Text.toBytes "alse" ∧ v = .bool false := by
  rw [literal?] at h
  split at h
  case h_1 hc =>
    cases h
    exact .inl ⟨eq_ofNat_of_ofNat_eq hc, rfl, rfl⟩
  case h_2 hc =>
    cases h
    exact .inr (.inl ⟨eq_ofNat_of_ofNat_eq hc, rfl, rfl⟩)
  case h_3 hc =>
    cases h
    exact .inr (.inr ⟨eq_ofNat_of_ofNat_eq hc, rfl, rfl⟩)
  case h_4 => cases h

/-- What is neither a list nor an object is a text, a number or what a literal stands for. -/
theorem readScalar?_eq_some (h : readScalar? b text = some (.ok (v, rest))) :
    (∃ s, v = .string s) ∨ (∃ n, v = .number n) ∨ ∃ word, literal? b = some (word, v) := by
  rw [readScalar?] at h
  split at h
  case isTrue =>
    obtain ⟨⟨s, _⟩, -, h⟩ := bind_eq_ok.mp (Option.some.inj h)
    cases h
    exact .inl ⟨s, rfl⟩
  case isFalse =>
    split at h
    case isTrue =>
      obtain ⟨⟨n, _⟩, -, h⟩ := bind_eq_ok.mp (Option.some.inj h)
      cases h
      exact .inr (.inl ⟨n, rfl⟩)
    case isFalse =>
      split at h
      case isTrue =>
        obtain ⟨⟨n, _⟩, -, h⟩ := bind_eq_ok.mp (Option.some.inj h)
        cases h
        exact .inr (.inl ⟨n, rfl⟩)
      case isFalse =>
        obtain ⟨⟨word, value⟩, hliteral, h⟩ := Option.map_eq_some_iff.mp h
        obtain ⟨_, -, h⟩ := bind_eq_ok.mp h
        cases h
        exact .inr (.inr ⟨word, hliteral⟩)

theorem ne_of_readScalar? (h : readScalar? b text = some (.ok (v, rest))) :
    (∀ items, v ≠ .array items) ∧ ∀ members, v ≠ .object members := by
  rcases readScalar?_eq_some h with ⟨s, rfl⟩ | ⟨n, rfl⟩ | ⟨word, hliteral⟩
  · exact ⟨by simp, by simp⟩
  · exact ⟨by simp, by simp⟩
  · rcases literal?_eq_some hliteral with ⟨-, -, rfl⟩ | ⟨-, -, rfl⟩ | ⟨-, -, rfl⟩
    all_goals exact ⟨by simp, by simp⟩

theorem skipBlank_skipBlank (bytes : Bytes) : skipBlank (skipBlank bytes) = skipBlank bytes := by
  cases h : skipBlank bytes with
  | nil => rfl
  | cons b more => exact skipBlank_cons (isBlankByte_of_skipBlank h)

theorem readValue_skipBlank (bytes : Bytes) :
    readValue distinct depth (skipBlank bytes) = readValue distinct depth bytes := by
  rw [readValue, readValue, skipBlank_skipBlank]

/-! ### Steps of passing over -/

/-- A place inside a value, with the brackets around it and the text from there on. -/
structure SkipState where
  place : SkipPlace
  around : List Enclosure
  bytes : Bytes

namespace SkipState

/-- Passes over the rest of the value. -/
def run (fuel : Nat) (s : SkipState) : Except JsonError Bytes := skipFrom fuel s.place s.around s.bytes

/-- The number of steps that are left, at most: two for each byte, and one from an opening bracket to the
value behind it. -/
def room (s : SkipState) : Nat :=
  2 * s.bytes.length + if s.place = .opened then 1 else 0

/-- Passing over leads from one place to the other, in the room there is. -/
def Leads (s s' : SkipState) : Prop :=
  ∃ n, n + s'.room ≤ s.room ∧ ∀ fuel, s.run (n + fuel) = s'.run fuel

variable {s s' s'' : SkipState} {around : List Enclosure} {enclosure : Enclosure}

theorem Leads.trans (h : s.Leads s') (h' : s'.Leads s'') : s.Leads s'' := by
  obtain ⟨n, hn, hrun⟩ := h
  obtain ⟨n', hn', hrun'⟩ := h'
  refine ⟨n + n', by omega, fun fuel => ?_⟩
  rw [Nat.add_assoc, hrun, hrun']

theorem leads_step (hroom : s'.room < s.room) (h : ∀ fuel, s.run (fuel + 1) = s'.run fuel) : s.Leads s' :=
  ⟨1, by omega, fun fuel => by rw [Nat.add_comm, h]⟩

/-- Blanks in front of a value do not matter. -/
theorem Leads.of_skipBlank (h : Leads ⟨.value, around, skipBlank bytes⟩ s) :
    Leads ⟨.value, around, bytes⟩ s := by
  obtain ⟨n, hn, hrun⟩ := h
  have hle := length_dropWhile_le isBlankByte bytes
  rw [← skipBlank] at hle
  refine ⟨n, Nat.le_trans hn ?_, fun fuel => ?_⟩
  · show 2 * (skipBlank bytes).length ≤ 2 * bytes.length
    omega
  · rw [← hrun, run, run]
    cases n + fuel with
    | zero => rfl
    | succ fuel => rw [skipFrom, skipFrom, skipBlank_skipBlank]

theorem leads_openList (h : skipBlank bytes = openList :: rest) :
    Leads ⟨.value, around, bytes⟩ ⟨.opened, .list :: around, rest⟩ := by
  have hlength := length_of_skipBlank h
  refine leads_step ?_ fun fuel => ?_
  · show 2 * rest.length + 1 < 2 * bytes.length
    omega
  · rw [run, skipFrom, h]
    rfl

theorem leads_openObject (h : skipBlank bytes = openObject :: rest) :
    Leads ⟨.value, around, bytes⟩ ⟨.opened, .object :: around, rest⟩ := by
  have hlength := length_of_skipBlank h
  refine leads_step ?_ fun fuel => ?_
  · show 2 * rest.length + 1 < 2 * bytes.length
    omega
  · rw [run, skipFrom, h]
    rfl

theorem leads_scalar (h : skipBlank bytes = b :: text) (hlist : b ≠ openList) (hobject : b ≠ openObject)
    (hskip : skipScalar? b text = some (.ok rest)) :
    Leads ⟨.value, around, bytes⟩ ⟨.closed, around, rest⟩ := by
  have hlength := length_of_skipBlank h
  have hlength' := length_of_skipScalar? hskip
  refine leads_step ?_ fun fuel => ?_
  · show 2 * rest.length < 2 * bytes.length
    omega
  · simp only [run, skipFrom, h, beq_iff_eq, if_neg hlist, if_neg hobject, hskip]

theorem leads_close {place : SkipPlace} (hplace : place ≠ .value)
    (h : skipBlank bytes = enclosure.close :: rest) :
    Leads ⟨place, enclosure :: around, bytes⟩ ⟨.closed, around, rest⟩ := by
  have hlength := length_of_skipBlank h
  refine leads_step ?_ fun fuel => ?_
  · show 2 * rest.length < 2 * bytes.length + _
    omega
  · cases place with
    | value => exact absurd rfl hplace
    | opened => simp only [run, skipFrom, h, beq_self_eq_true, if_true]
    | closed => simp only [run, skipFrom, h, beq_self_eq_true, if_true]

theorem leads_first (h : skipBlank bytes = b :: rest) (hb : b ≠ enclosure.close)
    (hvalue : skipToValue enclosure (b :: rest) = .ok text) (hlength : text.length ≤ (b :: rest).length) :
    Leads ⟨.opened, enclosure :: around, bytes⟩ ⟨.value, enclosure :: around, text⟩ := by
  have hbytes := length_of_skipBlank h
  rw [List.length_cons] at hlength
  refine leads_step ?_ fun fuel => ?_
  · show 2 * text.length < 2 * bytes.length + 1
    omega
  · simp only [run, skipFrom, h, beq_iff_eq, if_neg hb, hvalue]

theorem leads_comma (h : skipBlank bytes = commaByte :: rest)
    (hvalue : skipToValue enclosure rest = .ok text) (hlength : text.length ≤ rest.length) :
    Leads ⟨.closed, enclosure :: around, bytes⟩ ⟨.value, enclosure :: around, text⟩ := by
  have hbytes := length_of_skipBlank h
  have hb : commaByte ≠ enclosure.close := by cases enclosure <;> decide
  refine leads_step ?_ fun fuel => ?_
  · show 2 * text.length < 2 * bytes.length
    omega
  · simp only [run, skipFrom, h, beq_iff_eq, if_neg hb, bne_self_eq_false, Bool.false_eq_true, if_false,
      hvalue]

end SkipState

/-! ### Lists -/

open SkipState

/-- What the reader reads is passed over, inside whatever brackets. -/
structure SkipsWith {α : Type} (read : Bytes → Except JsonError (α × Bytes)) : Prop where
  leads : ∀ {bytes rest x}, read bytes = .ok (x, rest) →
    ∀ around, Leads ⟨.value, around, bytes⟩ ⟨.closed, around, rest⟩

section Lists

variable {α : Type} {item : Bytes → Except JsonError (α × Bytes)} {items done : List α}

/-- Elements behind an element, up to the end of the list. -/
theorem SkipsWith.readMoreItems (hitem : SkipsWith item) {fuel : Nat} (around : List Enclosure)
    (h : readMoreItems item fuel done bytes = .ok (items, rest)) :
    Leads ⟨.closed, .list :: around, bytes⟩ ⟨.closed, around, rest⟩ := by
  induction fuel generalizing done bytes with
  | zero => cases h
  | succ fuel ih =>
    rw [Json.readMoreItems] at h
    split at h
    case h_1 => cases h
    case h_2 b more hskip =>
      split at h
      case isTrue hclose =>
        cases h
        rw [beq_iff_eq.mp hclose] at hskip
        exact leads_close (by decide) hskip
      case isFalse =>
        split at h
        case isTrue => cases h
        case isFalse hcomma =>
          have hcomma : b = commaByte := by simpa using hcomma
          rw [hcomma] at hskip
          refine (leads_comma hskip rfl (Nat.le_refl _)).trans (Leads.of_skipBlank ?_)
          split at h
          case h_1 => cases h
          case h_2 c tail hblank =>
            rw [hblank]
            split at h
            case isTrue => cases h
            case isFalse =>
              split at h
              case h_1 => cases h
              case h_2 hread => exact (hitem.leads hread _).trans (ih h)

theorem SkipsWith.readItems (hitem : SkipsWith item) (around : List Enclosure)
    (h : readItems item bytes = .ok (items, rest)) :
    Leads ⟨.opened, .list :: around, bytes⟩ ⟨.closed, around, rest⟩ := by
  rw [Json.readItems] at h
  split at h
  case h_1 => cases h
  case h_2 b more hskip =>
    split at h
    case isTrue hclose =>
      cases h
      rw [beq_iff_eq.mp hclose] at hskip
      exact leads_close (by decide) hskip
    case isFalse hclose =>
      split at h
      case h_1 => cases h
      case h_2 hread =>
        have hfirst : b ≠ Enclosure.list.close := fun hb => hclose (beq_iff_eq.mpr hb)
        exact (leads_first hskip hfirst rfl (Nat.le_refl _)).trans
          ((hitem.leads hread _).trans (hitem.readMoreItems around h))

end Lists

/-! ### Objects -/

section Objects

variable {σ : Type} {member : MemberReader σ} {known known' : σ}

/-- A key stands in quotation marks, and what is behind it is for the reader of members. -/
theorem readKeyed_eq_ok (h : readKeyed member known (b :: bytes) = .ok (known', rest)) :
    b = quoteByte ∧ ∃ key behind, readString bytes = .ok (key, behind) ∧
      member known key behind = .ok (known', rest) := by
  rw [readKeyed] at h
  split at h
  case isTrue hquote =>
    obtain ⟨⟨key, behind⟩, hkey, h⟩ := bind_eq_ok.mp h
    exact ⟨beq_iff_eq.mp hquote, key, behind, hkey, h⟩
  case isFalse => cases h

/-- Behind a member there is the end of the object, or a comma and one more member. -/
theorem readMoreMembers_eq_ok {fuel : Nat}
    (h : readMoreMembers member (fuel + 1) known bytes = .ok (known', rest)) :
    (skipBlank bytes = closeObject :: rest ∧ known' = known) ∨
      ∃ more text known₁ rest₁, skipBlank bytes = commaByte :: more ∧
        skipBlank more = quoteByte :: text ∧
        readKeyed member known (quoteByte :: text) = .ok (known₁, rest₁) ∧
        readMoreMembers member fuel known₁ rest₁ = .ok (known', rest) := by
  rw [readMoreMembers] at h
  split at h
  case h_1 => cases h
  case h_2 b more hskip =>
    split at h
    case isTrue hclose =>
      cases h
      rw [beq_iff_eq.mp hclose] at hskip
      exact .inl ⟨hskip, rfl⟩
    case isFalse =>
      split at h
      case isTrue => cases h
      case isFalse hcomma =>
        have hcomma : b = commaByte := by simpa using hcomma
        rw [hcomma] at hskip
        split at h
        case h_1 => cases h
        case h_2 c text hblank =>
          split at h
          case isTrue => cases h
          case isFalse =>
            split at h
            case h_1 => cases h
            case h_2 known₁ rest₁ hread =>
              obtain ⟨rfl, -⟩ := readKeyed_eq_ok hread
              exact .inr ⟨more, text, known₁, rest₁, hskip, hblank, hread, h⟩

/-- Behind the opening brace there is the end of the object, or a first member. -/
theorem readMembers_eq_ok (h : readMembers member known bytes = .ok (known', rest)) :
    (skipBlank bytes = closeObject :: rest ∧ known' = known) ∨
      ∃ text known₁ rest₁, skipBlank bytes = quoteByte :: text ∧
        readKeyed member known (quoteByte :: text) = .ok (known₁, rest₁) ∧
        readMoreMembers member (rest₁.length + 1) known₁ rest₁ = .ok (known', rest) := by
  rw [readMembers] at h
  split at h
  case h_1 => cases h
  case h_2 b text hskip =>
    split at h
    case isTrue hclose =>
      cases h
      rw [beq_iff_eq.mp hclose] at hskip
      exact .inl ⟨hskip, rfl⟩
    case isFalse =>
      split at h
      case h_1 => cases h
      case h_2 known₁ rest₁ hread =>
        obtain ⟨rfl, -⟩ := readKeyed_eq_ok hread
        exact .inr ⟨text, known₁, rest₁, hskip, hread, h⟩

/-- What the reader of members reads is a colon and a value, which is passed over. -/
structure SkipsMembers (member : MemberReader σ) : Prop where
  leads : ∀ {known key bytes known' rest}, member known key bytes = .ok (known', rest) →
    ∃ text, readColon bytes = .ok text ∧ ∀ around, Leads ⟨.value, around, text⟩ ⟨.closed, around, rest⟩

theorem skipKey_of_skipBlank (h : skipBlank bytes = b :: rest) : skipKey (b :: rest) = skipKey bytes := by
  rw [skipKey, skipKey, ← h, skipBlank_skipBlank]

theorem length_of_readColon (h : readColon bytes = .ok rest) : rest.length < bytes.length := by
  rw [readColon] at h
  split at h
  case h_1 => cases h
  case h_2 hskip =>
    split at h
    case isTrue =>
      cases h
      exact length_of_skipBlank hskip
    case isFalse => cases h

/-- A key is passed over with its colon, and then the value. -/
theorem SkipsMembers.readKeyed (hmember : SkipsMembers member)
    (h : readKeyed member known (quoteByte :: bytes) = .ok (known', rest)) :
    ∃ text, skipKey (quoteByte :: bytes) = .ok text ∧ text.length ≤ bytes.length ∧
      ∀ around, Leads ⟨.value, around, text⟩ ⟨.closed, around, rest⟩ := by
  obtain ⟨-, key, behind, hkey, h⟩ := readKeyed_eq_ok h
  obtain ⟨text, hcolon, hleads⟩ := hmember.leads h
  have hkey := skipString_of_readString hkey
  refine ⟨text, ?_, ?_, hleads⟩
  · rw [skipKey, skipBlank_cons rfl]
    simp only [beq_self_eq_true, if_true, hkey]
    exact hcolon
  · have hlength := length_of_readColon hcolon
    have hlength' := length_of_skipStringWith hkey
    omega

theorem SkipsMembers.readMoreMembers (hmember : SkipsMembers member) {fuel : Nat} (around : List Enclosure)
    (h : readMoreMembers member fuel known bytes = .ok (known', rest)) :
    Leads ⟨.closed, .object :: around, bytes⟩ ⟨.closed, around, rest⟩ := by
  induction fuel generalizing known bytes with
  | zero => cases h
  | succ fuel ih =>
    rcases readMoreMembers_eq_ok h with
      ⟨hclose, -⟩ | ⟨more, text, known₁, rest₁, hcomma, hquote, hread, hmore⟩
    · exact leads_close (by decide) hclose
    · obtain ⟨text', hkey, hlength, hleads⟩ := hmember.readKeyed hread
      rw [skipKey_of_skipBlank hquote] at hkey
      have hvalue : skipToValue .object more = .ok text' := hkey
      have hle := Nat.le_of_lt (length_of_skipBlank hquote)
      exact (leads_comma hcomma hvalue (Nat.le_trans hlength hle)).trans ((hleads _).trans (ih hmore))

theorem SkipsMembers.readMembers (hmember : SkipsMembers member) (around : List Enclosure)
    (h : readMembers member known bytes = .ok (known', rest)) :
    Leads ⟨.opened, .object :: around, bytes⟩ ⟨.closed, around, rest⟩ := by
  rcases readMembers_eq_ok h with ⟨hclose, -⟩ | ⟨text, known₁, rest₁, hquote, hread, hmore⟩
  · exact leads_close (by decide) hclose
  · obtain ⟨text', hkey, hlength, hleads⟩ := hmember.readKeyed hread
    have hvalue : skipToValue .object (quoteByte :: text) = .ok text' := hkey
    exact (leads_first hquote (by decide) hvalue (Nat.le_succ_of_le hlength)).trans
      ((hleads _).trans (hmember.readMoreMembers around hmore))

end Objects

/-! ### Values -/

theorem skipsMembers_valueMember (h : SkipsWith (readValue distinct depth)) :
    SkipsMembers (valueMember distinct depth) := by
  refine ⟨fun hread => ?_⟩
  rw [valueMember] at hread
  split at hread
  case isTrue => cases hread
  case isFalse =>
    obtain ⟨text, hcolon, hread⟩ := bind_eq_ok.mp hread
    obtain ⟨⟨v, rest'⟩, hvalue, hread⟩ := bind_eq_ok.mp hread
    cases hread
    exact ⟨text, hcolon, h.leads hvalue⟩

/-- From where a value begins, passing over leads behind it. -/
theorem skipsWith_readValue (distinct : Bool) (depth : Nat) : SkipsWith (readValue distinct depth) := by
  -- on the depth that is left, as the reader goes: a bracket takes one off for what is inside
  induction depth with
  | zero =>
    refine ⟨fun h around => ?_⟩
    obtain ⟨b, text, hskip, hread⟩ := exists_readBehind h
    cases hread with
    | scalar hlist hobject h => exact leads_scalar hskip hlist hobject (skipScalar?_of_readScalar? h)
  | succ depth ih =>
    refine ⟨fun h around => ?_⟩
    obtain ⟨b, text, hskip, hread⟩ := exists_readBehind h
    cases hread with
    | list h => exact (leads_openList hskip).trans (ih.readItems around h)
    | object h =>
      exact (leads_openObject hskip).trans ((skipsMembers_valueMember ih).readMembers around h)
    | scalar hlist hobject h => exact leads_scalar hskip hlist hobject (skipScalar?_of_readScalar? h)

/-- **What can be read can be passed over**, up to the same place. -/
theorem skipValue_of_readValue (h : readValue distinct depth bytes = .ok (v, rest)) :
    skipValue bytes = .ok rest := by
  obtain ⟨n, hroom, hrun⟩ := (skipsWith_readValue distinct depth).leads h []
  -- outside of all brackets the loop ends, and there are steps left for that
  have hn : n ≤ 2 * bytes.length := Nat.le_trans (Nat.le_add_right _ _) hroom
  obtain ⟨k, hk⟩ := Nat.exists_eq_add_of_le hn
  have hfuel : 2 * bytes.length + 2 = n + (k + 2) := by omega
  rw [skipValue, hfuel]
  exact hrun (k + 2)

end ReplyRules.Json
