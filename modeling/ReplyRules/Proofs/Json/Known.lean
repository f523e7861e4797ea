import ReplyRules.Proofs.Json.Members

/-!
Records that are read straight from a text.  Of the members of such a record only those with a known key are
kept, each at most once, and all others are passed over (`addKnown`); what is passed over can be read, so the
reader follows the members as they stand in the text (`follows_readKnown`).

`membersOfBytes` reads the members of a text without refusing anything, while this reader refuses an object
with a repeated key inside a member.  Where no member has a list or an object as its value, the two
read the same (`HasMembers.of_isScalar`).

Main results: a text with known members, none of them repeated, is read as the record with these members,
however it is laid out (`recordOfText_of_members`); and what the printer writes is such a text
(`membersOfBytes_pretty`).
-/

namespace ReplyRules.Json

variable {bytes text rest : Bytes} {distinct : Bool} {depth : Nat} {v : Json}
variable {known : List String} {members : List (String × Json)} {entry : String × Json}

/-! ### The reader of known members -/

/-- The members that are kept, with one more; none if it is known and was there before. -/
def addKnown (known : List String) (members : List (String × Json)) (entry : String × Json) :
    Option (List (String × Json)) :=
  if !known.contains entry.1 then some members
  else if members.any (·.1 == entry.1) then none
  else some (setMember entry.1 entry.2 members)

theorem follows_readKnown (known : List String) :
    Follows (readKnown known) (addKnown known) true (maxDepth - 1) := by
  refine ⟨fun {bytes v rest} h members key => ?_⟩
  obtain ⟨text, hcolon, hvalue⟩ := bind_eq_ok.mp h
  rw [readKnown, addKnown]
  split
  case isTrue =>
    -- the value of an unknown key is passed over, up to where it would have been read to
    have hskip := skipValue_of_readValue hvalue
    simp [hcolon, hskip, bind, Except.bind, pure, Except.pure, Except.toOption]
  case isFalse =>
    split
    case isTrue => rfl
    case isFalse =>
      simp [hcolon, hvalue, bind, Except.bind, pure, Except.pure, Except.toOption]

/-- Members with known keys are all kept, if none of the keys is there twice. -/
theorem foldlM_addKnown (hknown : ∀ entry ∈ members, entry.1 ∈ known) (kept : List (String × Json))
    (hkeys : ((kept ++ members).map (·.1)).Nodup) :
    members.foldlM (addKnown known) kept = some (kept ++ members) := by
  induction members generalizing kept with
  | nil =>
    rw [List.append_nil]
    rfl
  | cons entry members ih =>
    have hadd : addKnown known kept entry = some (kept ++ [entry]) := by
      have hcontains : known.contains entry.1 = true :=
        List.contains_iff_mem.mpr (hknown entry List.mem_cons_self)
      have hnew : entry.1 ∉ kept.map (·.1) := notMem_of_nodup_keys hkeys
      rw [addKnown, hcontains, any_key_eq_false hnew, setMember_of_notMem hnew]
      rfl
    have hsplit : kept ++ entry :: members = (kept ++ [entry]) ++ members := by simp
    rw [List.foldlM_cons, hadd, hsplit]
    exact ih (fun entry' h => hknown entry' (List.mem_cons_of_mem entry h)) _ (hsplit ▸ hkeys)

/-! ### Members without lists and objects -/

/-- The value is neither a list nor an object. -/
def IsScalar : Json → Prop
  | .array _ => False
  | .object _ => False
  | _ => True

/-- Such a value is read in the same way whatever is refused and however deep it lies. -/
theorem IsScalar.readValue_eq (hv : v.IsScalar) (h : readValue distinct depth bytes = .ok (v, rest))
    (distinct' : Bool) (depth' : Nat) : readValue distinct' depth' bytes = .ok (v, rest) := by
  obtain ⟨b, text, hskip, hread⟩ := exists_readBehind h
  cases hread with
  | list => exact hv.elim
  | object => exact hv.elim
  | scalar hlist hobject hscalar =>
    rw [readValue, hskip]
    simp only [beq_iff_eq, hlist, hobject, if_false, hscalar]

theorem EntryAt.of_isScalar (h : EntryAt distinct depth text entry rest) (hv : entry.2.IsScalar)
    (distinct' : Bool) : EntryAt distinct' depth text entry rest := by
  obtain ⟨behind, hkey, hentry⟩ := h
  obtain ⟨text, hcolon, hvalue⟩ := bind_eq_ok.mp hentry
  exact ⟨behind, hkey, bind_eq_ok.mpr ⟨text, hcolon, hv.readValue_eq hvalue distinct' depth⟩⟩

theorem MoreMembers.of_isScalar (h : MoreMembers distinct depth bytes members rest)
    (hscalar : ∀ entry ∈ members, entry.2.IsScalar) (distinct' : Bool) :
    MoreMembers distinct' depth bytes members rest := by
  induction h with
  | close hclose => exact .close hclose
  | comma hcomma hquote hentry _ ih =>
    obtain ⟨hfirst, hmore⟩ := List.forall_mem_cons.mp hscalar
    exact .comma hcomma hquote (hentry.of_isScalar hfirst distinct') (ih hmore)

theorem HasMembers.of_isScalar (h : HasMembers distinct depth bytes members rest)
    (hscalar : ∀ entry ∈ members, entry.2.IsScalar) (distinct' : Bool) :
    HasMembers distinct' depth bytes members rest := by
  cases h with
  | close hclose => exact .close hclose
  | first hquote hentry hmore =>
    obtain ⟨hfirst, hrest⟩ := List.forall_mem_cons.mp hscalar
    exact .first hquote (hentry.of_isScalar hfirst distinct') (hmore.of_isScalar hrest distinct')

/-! ### Records -/

/-- **A text with known members is read as the record with these members**, if no key is there twice. -/
theorem recordOfText_of_members {text : String}
    (h : membersOfBytes (Text.toBytes text) = .ok members) (hkeys : (members.map (·.1)).Nodup)
    (hknown : ∀ entry ∈ members, entry.1 ∈ known) (hscalar : ∀ entry ∈ members, entry.2.IsScalar) :
    recordOfText known text = .ok (.object members) := by
  obtain ⟨bytes, rest, hskip, hmembers, hend⟩ := membersOfBytes_eq_ok_iff.mp h
  have hkept := (hmembers.of_isScalar hscalar true).toOption_readMembers (follows_readKnown known) []
  rw [foldlM_addKnown hknown [] hkeys] at hkept
  have hread : readMembers (readKnown known) [] bytes = .ok (members, rest) := toOption_eq_some.mp hkept
  rw [recordOfText, hskip]
  simp [hread, hend, bind, Except.bind, pure, Except.pure]

/-- Members are kept one by one as they were written. -/
theorem collects_keepMember {indent : Nat}
    (h : ∀ entry ∈ members, ReadsAs (readValue false depth) (Text.encode (chars indent entry.2)) entry.2)
    (kept : List (String × Json)) :
    Collects (keepMember depth) indent kept members (kept ++ members) := by
  induction members generalizing kept with
  | nil =>
    rw [List.append_nil]
    exact .nil
  | cons entry members ih =>
    have hsplit : kept ++ entry :: members = (kept ++ [entry]) ++ members := by simp
    rw [hsplit]
    refine .cons (fun rest hends => ?_) (ih (fun entry' h' => h entry' (List.mem_cons_of_mem _ h')) _)
    have hread := (h entry List.mem_cons_self).read_eq rest hends
    simp [keepMember, readEntry, readColon_colon, readValue_blank, hread, bind, Except.bind, pure,
      Except.pure]

/-- **The members of what is written** are those that were to be written. -/
theorem membersOfBytes_pretty (h : ∀ entry ∈ members, Fits (maxDepth - 1) entry.2) :
    membersOfBytes (Text.toBytes (object members).pretty) = .ok members := by
  have hcollects := collects_keepMember (fun entry hentry => (h entry hentry).readsAs false 1) []
  obtain ⟨more, htext, hread⟩ := readMembers_chars 0 hcollects
  have hmembers : readMembers (keepMember (maxDepth - 1)) [] more = .ok (members, []) := by
    have hmore := hread []
    rwa [List.append_nil] at hmore
  rw [pretty, Text.toBytes_ofList, htext, membersOfBytes, skipBlank_cons rfl]
  simp [hmembers, readEnd, skipBlank, bind, Except.bind, pure, Except.pure]

end ReplyRules.Json
