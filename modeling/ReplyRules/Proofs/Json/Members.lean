import ReplyRules.Json.Fields
import ReplyRules.Proofs.Json.Skip

/-!
The members of an object as they stand in a text.  A value keeps, of a key that is repeated, only the last
member; a reader that looks at the text itself may do otherwise.  So the members are told once as they stand
there, with all repetitions (`HasMembers`), and each reader of members is told by what it comes to know of one
of them (`Follows`); it then reads an object as a fold over the members (`HasMembers.toOption_readMembers`).

The reader of values folds them into what has the last member of each key (`lastValues`), and one that keeps
everything gives the list itself (`membersOfBytes`).  Readers of truth values and of lists are compared with
the reader of values, too (`toOption_readBool`, `toOption_readList`).

Main result: the texts that are objects are those that have members, and the last ones of these are those of
the object (`ofBytes_eq_object_iff`).
-/

namespace ReplyRules.Json

variable {bytes text rest : Bytes} {distinct : Bool} {depth : Nat} {v : Json}
variable {members : List (String × Json)}

/-! ### Members with repeated keys -/

/-- Reads what stands behind a key: a colon and a value. -/
def readEntry (distinct : Bool) (depth : Nat) (bytes : Bytes) : Except JsonError (Json × Bytes) := do
  let rest ← readColon bytes
  readValue distinct depth rest

/-- Keeps every member, also one with a key that was there before. -/
def keepMember (depth : Nat) : MemberReader (List (String × Json)) := fun members key bytes => do
  let (v, rest) ← readEntry false depth bytes
  return (members ++ [(key, v)], rest)

/-- The members of the object that a text holds, in their order; a key may be there several times. -/
def membersOfBytes (text : Bytes) : Except JsonError (List (String × Json)) :=
  match skipBlank text with
  | [] => failHere .endInValue []
  | b :: rest =>
    if b == openObject then do
      let (members, rest) ← readMembers (keepMember (maxDepth - 1)) [] rest
      readEnd rest
      return members
    else failExpecting "an object" (b :: rest)

/-- The values of a key, in their order. -/
def valuesOf (key : String) (members : List (String × Json)) : List Json :=
  (members.filter (·.1 == key)).map (·.2)

/-- The members of a value: where a key is repeated, the last value counts. -/
def lastValues (members : List (String × Json)) : List (String × Json) :=
  members.foldl (fun known entry => setMember entry.1 entry.2 known) []

theorem valuesOf_cons (key : String) (entry : String × Json) :
    valuesOf key (entry :: members) =
      if entry.1 == key then entry.2 :: valuesOf key members else valuesOf key members := by
  rw [valuesOf, List.filter_cons]
  split <;> rfl

theorem member?_cons (key : String) (entry : String × Json) :
    (object (entry :: members)).member? key =
      if entry.1 == key then some entry.2 else (object members).member? key := by
  rw [member?, List.find?_cons]
  cases entry.1 == key <;> rfl

/-- Of the members of an object only the one with the key is changed. -/
theorem member?_setMember (key key' : String) (v : Json) :
    (object (setMember key v members)).member? key' =
      if key == key' then some v else (object members).member? key' := by
  induction members with
  | nil => exact member?_cons key' (key, v)
  | cons entry members ih =>
    rw [setMember]
    split
    case isTrue hkey =>
      rw [member?_cons, member?_cons, beq_iff_eq.mp hkey]
      split <;> rfl
    case isFalse hkey =>
      rw [member?_cons, member?_cons, ih]
      by_cases hkey' : entry.1 = key'
      · -- the key that is asked for is not the one that is set
        have hne : key ≠ key' := fun h => hkey (beq_iff_eq.mpr (hkey'.trans h.symm))
        simp [hkey', hne]
      · simp [hkey']

/-- Of a key that is repeated, the last value counts. -/
theorem member?_lastValues (key : String) (members : List (String × Json)) :
    (object (lastValues members)).member? key = (valuesOf key members).getLast? := by
  -- with members that are known already, which count only if none follows
  have hfold (known : List (String × Json)) :
      (object (members.foldl (fun known entry => setMember entry.1 entry.2 known) known)).member? key =
        (valuesOf key members).getLast?.or ((object known).member? key) := by
    induction members generalizing known with
    | nil => rfl
    | cons entry members ih =>
      rw [List.foldl_cons, ih, member?_setMember, valuesOf_cons]
      split
      case isTrue => cases valuesOf key members <;> simp [List.getLast?_cons]
      case isFalse => rfl
  rw [lastValues, hfold]
  exact Option.or_none

/-! ### The text of an object -/

/-- A key, from behind its quotation mark, and its value stand here. -/
def EntryAt (distinct : Bool) (depth : Nat) (text : Bytes) (entry : String × Json) (rest : Bytes) : Prop :=
  ∃ behind, readString text = .ok (entry.1, behind) ∧
    readEntry distinct depth behind = .ok (entry.2, rest)

/-- Behind a member of an object stand these further members, and the end of the object. -/
inductive MoreMembers (distinct : Bool) (depth : Nat) : Bytes → List (String × Json) → Bytes → Prop
  | close {bytes rest : Bytes} (hclose : skipBlank bytes = closeObject :: rest) :
      MoreMembers distinct depth bytes [] rest
  | comma {bytes more text rest₁ rest : Bytes} {entry : String × Json} {members : List (String × Json)}
      (hcomma : skipBlank bytes = commaByte :: more) (hquote : skipBlank more = quoteByte :: text)
      (hentry : EntryAt distinct depth text entry rest₁)
      (hmore : MoreMembers distinct depth rest₁ members rest) :
      MoreMembers distinct depth bytes (entry :: members) rest

/-- Behind the brace that opens an object stand these members, and the end of the object. -/
inductive HasMembers (distinct : Bool) (depth : Nat) : Bytes → List (String × Json) → Bytes → Prop
  | close {bytes rest : Bytes} (hclose : skipBlank bytes = closeObject :: rest) :
      HasMembers distinct depth bytes [] rest
  | first {bytes text rest₁ rest : Bytes} {entry : String × Json} {members : List (String × Json)}
      (hquote : skipBlank bytes = quoteByte :: text)
      (hentry : EntryAt distinct depth text entry rest₁)
      (hmore : MoreMembers distinct depth rest₁ members rest) :
      HasMembers distinct depth bytes (entry :: members) rest

theorem length_of_readEntry (h : readEntry distinct depth bytes = .ok (v, rest)) :
    rest.length < bytes.length := by
  obtain ⟨text, hcolon, hvalue⟩ := bind_eq_ok.mp h
  obtain ⟨n, hroom, -⟩ := (skipsWith_readValue distinct depth).leads hvalue []
  have hlength := length_of_readColon hcolon
  have hroom : n + 2 * rest.length ≤ 2 * text.length := hroom
  omega

theorem EntryAt.length_lt {entry : String × Json} (h : EntryAt distinct depth text entry rest) :
    rest.length < text.length := by
  obtain ⟨behind, hkey, hentry⟩ := h
  exact Nat.lt_trans (length_of_readEntry hentry)
    (length_of_skipStringWith (skipString_of_readString hkey))

/-! ### Readers of members -/

section Readers

variable {σ : Type} {member : MemberReader σ} {known known' : σ} {step : σ → String × Json → Option σ}

/-- Where the reader takes a member, there is an entry. -/
structure ReadsEntries (member : MemberReader σ) (distinct : Bool) (depth : Nat) : Prop where
  exists_entry : ∀ {known key bytes known' rest}, member known key bytes = .ok (known', rest) →
    ∃ v, readEntry distinct depth bytes = .ok (v, rest)

theorem ReadsEntries.entryAt (hmember : ReadsEntries member distinct depth)
    (h : readKeyed member known (quoteByte :: bytes) = .ok (known', rest)) :
    ∃ entry, EntryAt distinct depth bytes entry rest := by
  obtain ⟨-, key, behind, hkey, h⟩ := readKeyed_eq_ok h
  obtain ⟨v, hentry⟩ := hmember.exists_entry h
  exact ⟨(key, v), behind, hkey, hentry⟩

theorem ReadsEntries.moreMembers (hmember : ReadsEntries member distinct depth) {fuel : Nat}
    (h : readMoreMembers member fuel known bytes = .ok (known', rest)) :
    ∃ members, MoreMembers distinct depth bytes members rest := by
  induction fuel generalizing known bytes with
  | zero => cases h
  | succ fuel ih =>
    rcases readMoreMembers_eq_ok h with
      ⟨hclose, -⟩ | ⟨more, text, known₁, rest₁, hcomma, hquote, hread, hmore⟩
    · exact ⟨[], .close hclose⟩
    · obtain ⟨entry, hentry⟩ := hmember.entryAt hread
      obtain ⟨members, hmembers⟩ := ih hmore
      exact ⟨entry :: members, .comma hcomma hquote hentry hmembers⟩

/-- What is read as an object has members. -/
theorem ReadsEntries.hasMembers (hmember : ReadsEntries member distinct depth)
    (h : readMembers member known bytes = .ok (known', rest)) :
    ∃ members, HasMembers distinct depth bytes members rest := by
  rcases readMembers_eq_ok h with ⟨hclose, -⟩ | ⟨text, known₁, rest₁, hquote, hread, hmore⟩
  · exact ⟨[], .close hclose⟩
  · obtain ⟨entry, hentry⟩ := hmember.entryAt hread
    obtain ⟨members, hmembers⟩ := hmember.moreMembers hmore
    exact ⟨entry :: members, .first hquote hentry hmembers⟩

/-- Of an entry, the reader comes to know what `step` says; it refuses the entry where `step` does. -/
structure Follows (member : MemberReader σ) (step : σ → String × Json → Option σ) (distinct : Bool)
    (depth : Nat) : Prop where
  toOption_eq : ∀ {bytes v rest}, readEntry distinct depth bytes = .ok (v, rest) → ∀ known key,
    (member known key bytes).toOption = (step known (key, v)).map fun known' => (known', rest)

theorem toOption_eq_some {α : Type} {read : Except JsonError α} {x : α} :
    read.toOption = some x ↔ read = .ok x := by
  cases read with
  | error e => simp [Except.toOption]
  | ok y => simp [Except.toOption]

theorem toOption_bind {α β : Type} (first : Except JsonError α) (next : α → Except JsonError β) :
    (first >>= next).toOption = first.toOption.bind fun x => (next x).toOption := by
  cases first <;> rfl

theorem Follows.toOption_readKeyed (hfollows : Follows member step distinct depth) {entry : String × Json}
    (h : EntryAt distinct depth text entry rest) (known : σ) :
    (readKeyed member known (quoteByte :: text)).toOption =
      (step known entry).map fun known' => (known', rest) := by
  obtain ⟨behind, hkey, hentry⟩ := h
  rw [← hfollows.toOption_eq hentry known entry.1]
  simp [readKeyed, hkey, bind, Except.bind]

theorem readMoreMembers_eq_bind {more : Bytes} (hcomma : skipBlank bytes = commaByte :: more)
    (hquote : skipBlank more = quoteByte :: text) (member : MemberReader σ) (fuel : Nat) (known : σ) :
    readMoreMembers member (fuel + 1) known bytes =
      readKeyed member known (quoteByte :: text) >>= fun read =>
        readMoreMembers member fuel read.1 read.2 := by
  have hclose : commaByte ≠ closeObject := by decide
  have hquoted : quoteByte ≠ closeObject := by decide
  simp only [readMoreMembers, hcomma, hquote, beq_iff_eq, hclose, hquoted, if_false, bne_self_eq_false,
    Bool.false_eq_true]
  cases readKeyed member known (quoteByte :: text) <;> rfl

theorem readMembers_eq_bind (hquote : skipBlank bytes = quoteByte :: text) (member : MemberReader σ)
    (known : σ) :
    readMembers member known bytes =
      readKeyed member known (quoteByte :: text) >>= fun read =>
        readMoreMembers member (read.2.length + 1) read.1 read.2 := by
  have hquoted : quoteByte ≠ closeObject := by decide
  simp only [readMembers, hquote, beq_iff_eq, hquoted, if_false]
  cases readKeyed member known (quoteByte :: text) <;> rfl

theorem MoreMembers.toOption_readMoreMembers (hfollows : Follows member step distinct depth)
    (h : MoreMembers distinct depth bytes members rest) {fuel : Nat} (hfuel : bytes.length < fuel)
    (known : σ) :
    (readMoreMembers member fuel known bytes).toOption =
      (members.foldlM step known).map fun known' => (known', rest) := by
  -- on the members that are left; every one of them takes more bytes than steps
  induction h generalizing fuel known with
  | close hclose =>
    obtain ⟨fuel, rfl⟩ := Nat.exists_eq_succ_of_ne_zero (Nat.ne_zero_of_lt hfuel)
    rw [readMoreMembers, hclose]
    rfl
  | comma hcomma hquote hentry _ ih =>
    obtain ⟨fuel, rfl⟩ := Nat.exists_eq_succ_of_ne_zero (Nat.ne_zero_of_lt hfuel)
    have hmore := length_of_skipBlank hcomma
    have htext := length_of_skipBlank hquote
    have hrest := hentry.length_lt
    rw [readMoreMembers_eq_bind hcomma hquote, toOption_bind, hfollows.toOption_readKeyed hentry,
      List.foldlM_cons, Option.bind_map, Option.bind_eq_bind, Option.map_bind]
    exact congrArg _ (funext fun known' => ih (by omega) known')

/-- **The members are read one by one** by a reader that follows entries. -/
theorem HasMembers.toOption_readMembers (hfollows : Follows member step distinct depth)
    (h : HasMembers distinct depth bytes members rest) (known : σ) :
    (readMembers member known bytes).toOption =
      (members.foldlM step known).map fun known' => (known', rest) := by
  cases h with
  | close hclose =>
    rw [readMembers, hclose]
    rfl
  | first hquote hentry hmore =>
    have hnext := hmore.toOption_readMoreMembers hfollows (Nat.lt_succ_self _)
    rw [readMembers_eq_bind hquote, toOption_bind, hfollows.toOption_readKeyed hentry,
      List.foldlM_cons, Option.bind_map, Option.bind_eq_bind, Option.map_bind]
    exact congrArg _ (funext hnext)

end Readers

/-! ### Values of a known kind -/

/-- A value of another kind is an error, if nothing else about it is. -/
theorem toOption_failExpecting {α : Type} (expected : String) (bytes : Bytes) :
    (failExpecting expected bytes : Except JsonError α).toOption = none := by
  rw [failExpecting]
  split
  case h_1 => rfl
  case h_2 =>
    split
    case isTrue => rfl
    case isFalse =>
      split
      case isTrue => rfl
      case isFalse =>
        split
        case h_1 => rfl
        case h_2 => rfl
        case h_3 => rfl

theorem readScalar?_of_literal? {b : UInt8} {word : Bytes} {value : Json}
    (h : literal? b = some (word, value)) (text : Bytes) :
    readScalar? b text = some ((readWord word text).map fun rest => (value, rest)) := by
  rcases literal?_eq_some h with ⟨rfl, rfl, rfl⟩ | ⟨rfl, rfl, rfl⟩ | ⟨rfl, rfl, rfl⟩
  · rfl
  · rfl
  · rfl

theorem bool?_of_readScalar? {b : UInt8} (hnone : literal? b = none)
    (h : readScalar? b text = some (.ok (v, rest))) : v.bool? = none := by
  rcases readScalar?_eq_some h with ⟨s, rfl⟩ | ⟨n, rfl⟩ | ⟨word, hliteral⟩
  · rfl
  · rfl
  · rw [hnone] at hliteral
    cases hliteral

/-- A value that can be read is read as a truth value if it is one. -/
theorem toOption_readBool (h : readValue distinct depth bytes = .ok (v, rest)) :
    (readBool bytes).toOption = v.bool?.map fun b => (b, rest) := by
  obtain ⟨b, text, hskip, hread⟩ := exists_readBehind h
  rw [readBool, hskip]
  cases hread with
  | list => exact toOption_failExpecting _ _
  | object => exact toOption_failExpecting _ _
  | scalar _ _ hscalar =>
    dsimp only
    cases hliteral : literal? b with
    | none =>
      rw [bool?_of_readScalar? hliteral hscalar]
      exact toOption_failExpecting _ _
    | some literal =>
      obtain ⟨word, value⟩ := literal
      rw [readScalar?_of_literal? hliteral] at hscalar
      obtain ⟨_, hword, hvalue⟩ := map_eq_ok.mp (Option.some.inj hscalar)
      cases hvalue
      rcases literal?_eq_some hliteral with ⟨-, -, rfl⟩ | ⟨-, -, rfl⟩ | ⟨-, -, rfl⟩
      · exact toOption_failExpecting _ _
      · exact congrArg (fun read => (read.map fun rest => (true, rest)).toOption) hword
      · exact congrArg (fun read => (read.map fun rest => (false, rest)).toOption) hword

/-- A value that can be read is read as a list if it is one. -/
theorem toOption_readList (h : readValue false (depth + 1) bytes = .ok (v, rest)) :
    (readList (depth + 1) bytes).toOption = v.array?.map fun items => (items, rest) := by
  obtain ⟨b, text, hskip, hread⟩ := exists_readBehind h
  rw [readList, hskip]
  cases hread with
  | list hitems => exact congrArg Except.toOption hitems
  | object =>
    have hlist : openObject ≠ openList := by decide
    simp only [beq_iff_eq, if_neg hlist]
    exact toOption_failExpecting _ _
  | scalar hlist _ hscalar =>
    have hnone : v.array? = none := by
      cases v with
      | array items => exact absurd rfl ((ne_of_readScalar? hscalar).1 items)
      | _ => rfl
    simp only [beq_iff_eq, if_neg hlist]
    rw [hnone]
    exact toOption_failExpecting _ _

/-! ### Objects as values, and as they stand -/

theorem readsEntries_valueMember (distinct : Bool) (depth : Nat) :
    ReadsEntries (valueMember distinct depth) distinct depth := by
  refine ⟨fun h => ?_⟩
  rw [valueMember] at h
  split at h
  case isTrue => cases h
  case isFalse =>
    obtain ⟨text, hcolon, h⟩ := bind_eq_ok.mp h
    obtain ⟨⟨v, rest⟩, hvalue, h⟩ := bind_eq_ok.mp h
    cases h
    exact ⟨v, bind_eq_ok.mpr ⟨text, hcolon, hvalue⟩⟩

theorem follows_valueMember (depth : Nat) :
    Follows (valueMember false depth) (fun known entry => some (setMember entry.1 entry.2 known)) false
      depth := by
  refine ⟨fun h known key => ?_⟩
  obtain ⟨text, hcolon, hvalue⟩ := bind_eq_ok.mp h
  simp [valueMember, hcolon, hvalue, bind, Except.bind, pure, Except.pure, Except.toOption]

theorem readsEntries_keepMember (depth : Nat) : ReadsEntries (keepMember depth) false depth := by
  refine ⟨fun h => ?_⟩
  obtain ⟨⟨v, rest⟩, hentry, h⟩ := bind_eq_ok.mp h
  cases h
  exact ⟨v, hentry⟩

theorem follows_keepMember (depth : Nat) :
    Follows (keepMember depth) (fun known entry => some (known ++ [entry])) false depth := by
  refine ⟨fun h known key => ?_⟩
  simp [keepMember, h, bind, Except.bind, pure, Except.pure, Except.toOption]

/-- The text is that of an object with these members. -/
def IsObjectText (text : Bytes) (members : List (String × Json)) : Prop :=
  ∃ bytes rest, skipBlank text = openObject :: bytes ∧
    HasMembers false (maxDepth - 1) bytes members rest ∧ readEnd rest = .ok ()

theorem foldlM_keep (members known : List (String × Json)) :
    members.foldlM (fun known entry => some (known ++ [entry])) known = some (known ++ members) := by
  induction members generalizing known with
  | nil => simp
  | cons entry members ih => simp [ih]

theorem membersOfBytes_eq_ok_iff : membersOfBytes text = .ok members ↔ IsObjectText text members := by
  constructor
  · intro h
    rw [membersOfBytes] at h
    split at h
    case h_1 => cases h
    case h_2 b bytes hskip =>
      split at h
      case isTrue hobject =>
        obtain ⟨⟨members', rest⟩, hread, h⟩ := bind_eq_ok.mp h
        obtain ⟨⟨⟩, hend, h⟩ := bind_eq_ok.mp h
        cases h
        obtain ⟨members', hmembers⟩ := (readsEntries_keepMember _).hasMembers hread
        have hkept := hmembers.toOption_readMembers (follows_keepMember _) []
        rw [hread, foldlM_keep] at hkept
        obtain rfl : members = members' := by simpa [Except.toOption] using hkept
        rw [beq_iff_eq.mp hobject] at hskip
        exact ⟨bytes, rest, hskip, hmembers, hend⟩
      case isFalse =>
        have hsome := toOption_eq_some.mpr h
        rw [toOption_failExpecting] at hsome
        cases hsome
  · rintro ⟨bytes, rest, hskip, hmembers, hend⟩
    have hkept := hmembers.toOption_readMembers (follows_keepMember _) []
    rw [foldlM_keep] at hkept
    have hread := toOption_eq_some.mp hkept
    rw [membersOfBytes, hskip]
    simp [hread, hend, bind, Except.bind, pure, Except.pure]

theorem foldlM_setMember (members known : List (String × Json)) :
    members.foldlM (fun known entry => some (setMember entry.1 entry.2 known)) known =
      some (members.foldl (fun known entry => setMember entry.1 entry.2 known) known) := by
  induction members generalizing known with
  | nil => rfl
  | cons entry members ih => exact ih _

/-- **A text that is an object** as a value is the text of some members, the last values of which are those
of the object. -/
theorem ofBytes_eq_object_iff {o : List (String × Json)} :
    ofBytes text = .ok (.object o) ↔
      ∃ members, membersOfBytes text = .ok members ∧ lastValues members = o := by
  simp only [membersOfBytes_eq_ok_iff]
  constructor
  · intro h
    obtain ⟨⟨v, rest⟩, hvalue, h⟩ := bind_eq_ok.mp h
    obtain ⟨⟨⟩, hend, h⟩ := bind_eq_ok.mp h
    cases h
    obtain ⟨b, bytes, hskip, hread⟩ := exists_readBehind hvalue
    cases hread with
    | object hread =>
      -- the reader of values refuses nothing that has members, so it has read what is folded
      obtain ⟨members, hmembers⟩ := (readsEntries_valueMember _ _).hasMembers hread
      have hlast := hmembers.toOption_readMembers (follows_valueMember _) []
      rw [hread, foldlM_setMember] at hlast
      obtain rfl : o = lastValues members := by simpa [Except.toOption, lastValues] using hlast
      exact ⟨members, ⟨bytes, rest, hskip, hmembers, hend⟩, rfl⟩
    | scalar _ _ hread => exact absurd rfl ((ne_of_readScalar? hread).2 o)
  · rintro ⟨members, ⟨bytes, rest, hskip, hmembers, hend⟩, rfl⟩
    have hlast := hmembers.toOption_readMembers (follows_valueMember _) []
    rw [foldlM_setMember] at hlast
    have hread := toOption_eq_some.mp hlast
    have hvalue : readValue false maxDepth text = .ok (.object (lastValues members), rest) := by
      rw [← readValue_skipBlank, hskip]
      show readValue false (maxDepth - 1 + 1) _ = _
      rw [readValue_openObject, hread]
      rfl
    rw [ofBytes, hvalue]
    simp [hend, bind, Except.bind, pure, Except.pure]

end ReplyRules.Json
