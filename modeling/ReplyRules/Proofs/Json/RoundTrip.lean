import ReplyRules.Json.Record
import ReplyRules.Proofs.Json.Strings
import ReplyRules.Proofs.Json.Numbers

/-!
Values are read as they were written.  A value that is written can be read if its lists and objects do not
lie too deep inside each other, its numbers are whole and fit into 64 bits, and no object has a key twice
(`Json.Fits`).  Of a reader we say that it takes a text for something (`Json.ReadsAs`), and of a reader of
members that it collects the members of an object one by one (`Json.Collects`); the readers of lists and of
objects then take what the printer writes, whatever they read elements and members with.

Main results: a value that fits is read as it was written (`Json.Fits.readsAs`), and so is a document
(`Json.Fits.ofText_pretty`).
-/

namespace ReplyRules

namespace Json

open Text (encode)

/-! ### Signs -/

@[simp] theorem encode_quote : String.utf8EncodeChar '"' = [quoteByte] := rfl
@[simp] theorem encode_blank : String.utf8EncodeChar ' ' = [0x20] := rfl
@[simp] theorem encode_comma : String.utf8EncodeChar ',' = [commaByte] := rfl
@[simp] theorem encode_colon : String.utf8EncodeChar ':' = [colonByte] := rfl
@[simp] theorem encode_openList : String.utf8EncodeChar '[' = [openList] := rfl
@[simp] theorem encode_closeList : String.utf8EncodeChar ']' = [closeList] := rfl
@[simp] theorem encode_openObject : String.utf8EncodeChar '\x7b' = [openObject] := rfl
@[simp] theorem encode_closeObject : String.utf8EncodeChar '\x7d' = [closeObject] := rfl

variable {text rest word : Bytes} {indent outer : Nat}

theorem encode_quoted (s : String) :
    encode (quoted s) = quoteByte :: (encode (s.toList.flatMap escapeChar) ++ [quoteByte]) := by
  simp [quoted]

theorem encode_itemChars (indent : Nat) (v : Json) (items : List Json) :
    encode (itemChars indent (v :: items)) =
      commaByte ::
        (encode (newLine indent) ++ (encode (chars indent v) ++ encode (itemChars indent items))) := by
  simp [itemChars]

theorem encode_memberChars (indent : Nat) (key : String) (v : Json) (members : List (String × Json)) :
    encode (memberChars indent ((key, v) :: members)) =
      commaByte :: (encode (newLine indent) ++ (encode (quoted key) ++
        (colonByte :: 0x20 :: (encode (chars indent v) ++ encode (memberChars indent members))))) := by
  simp [memberChars]

theorem encode_array (indent : Nat) (v : Json) (items : List Json) :
    encode (chars indent (.array (v :: items))) =
      openList :: (encode (newLine (indent + 1)) ++ (encode (chars (indent + 1) v) ++
        (encode (itemChars (indent + 1) items) ++ (encode (newLine indent) ++ [closeList])))) := by
  simp [chars]

theorem encode_object (indent : Nat) (key : String) (v : Json) (members : List (String × Json)) :
    encode (chars indent (.object ((key, v) :: members))) =
      openObject :: (encode (newLine (indent + 1)) ++ (encode (quoted key) ++
        (colonByte :: 0x20 :: (encode (chars (indent + 1) v) ++
          (encode (memberChars (indent + 1) members) ++ (encode (newLine indent) ++ [closeObject])))))) := by
  simp [chars]

/-! ### What is passed over -/

/-- The text begins with a byte that is neither blank nor the end of a list or an object. -/
def Begins (text : Bytes) : Prop :=
  ∃ b more, text = b :: more ∧ isBlankByte b = false ∧ b ≠ closeList ∧ b ≠ closeObject

theorem begins_quoted (s : String) : Begins (encode (quoted s)) :=
  ⟨_, _, encode_quoted s, rfl, by decide, by decide⟩

theorem skipBlank_cons {b : UInt8} (h : isBlankByte b = false) : skipBlank (b :: rest) = b :: rest := by
  simp [skipBlank, h]

theorem skipBlank_newLine (indent : Nat) :
    skipBlank (encode (newLine indent) ++ rest) = skipBlank rest := by
  apply List.dropWhile_append_of_pos
  intro b hb
  obtain ⟨c, hc, hb⟩ := List.mem_flatMap.mp hb
  rw [newLine, List.mem_cons, List.mem_replicate] at hc
  rcases hc with rfl | ⟨-, rfl⟩
  · rw [List.mem_singleton.mp hb]
    rfl
  · rw [List.mem_singleton.mp hb]
    rfl

theorem skipBlank_newLine_cons {b : UInt8} (h : isBlankByte b = false) (indent : Nat) (rest : Bytes) :
    skipBlank (encode (newLine indent) ++ b :: rest) = b :: rest := by
  rw [skipBlank_newLine, skipBlank_cons h]

theorem ends_newLine (indent : Nat) (rest : Bytes) : Ends (encode (newLine indent) ++ rest) :=
  ends_cons ⟨rfl, by decide, rfl⟩

theorem readWord_append (word rest : Bytes) : readWord word (word ++ rest) = .ok rest := by
  induction word with
  | nil => rfl
  | cons b word ih => simpa [readWord] using ih

/-! ### Lists -/

/-- The reader takes the text for `x`, where what follows does not go on with a number. -/
structure ReadsAs {α : Type} (read : Bytes → Except JsonError (α × Bytes)) (text : Bytes) (x : α) :
    Prop where
  begins : Begins text
  read_eq : ∀ rest, Ends rest → read (text ++ rest) = .ok (x, rest)

section Lists

variable {item : Bytes → Except JsonError (Json × Bytes)} {items : List Json}

theorem ends_itemChars (indent : Nat) (items : List Json) (h : Ends rest) :
    Ends (encode (itemChars indent items) ++ rest) := by
  cases items with
  | nil => exact h
  | cons v items =>
    rw [encode_itemChars]
    exact ends_cons ⟨rfl, by decide, rfl⟩

theorem readMoreItems_close (rest : Bytes) (fuel : Nat) (done : List Json) :
    readMoreItems item (fuel + 1) done (encode (newLine outer) ++ closeList :: rest) =
      .ok (done.reverse, rest) := by
  rw [readMoreItems, skipBlank_newLine_cons rfl]
  rfl

/-- One more element. -/
theorem readMoreItems_comma {v : Json} (h : ReadsAs item text v) (hrest : Ends rest) (fuel : Nat)
    (done : List Json) :
    readMoreItems item (fuel + 1) done (commaByte :: (encode (newLine indent) ++ (text ++ rest))) =
      readMoreItems item fuel (v :: done) rest := by
  obtain ⟨b, more, rfl, hb, hclose, -⟩ := h.begins
  have hread : item (b :: (more ++ rest)) = .ok (v, rest) := h.read_eq rest hrest
  have hskip := skipBlank_newLine_cons hb indent (more ++ rest)
  have hcomma : isBlankByte commaByte = false := rfl
  have hgoesOn : commaByte ≠ closeList := by decide
  simp [readMoreItems, skipBlank_cons hcomma, hgoesOn, hskip, hclose, hread]

theorem readMoreItems_eq (h : ∀ v ∈ items, ReadsAs item (encode (chars indent v)) v) (rest : Bytes)
    {fuel : Nat} (hfuel : items.length < fuel) (done : List Json) :
    readMoreItems item fuel done
        (encode (itemChars indent items) ++ (encode (newLine outer) ++ closeList :: rest)) =
      .ok (done.reverse ++ items, rest) := by
  induction items generalizing fuel done with
  | nil =>
    obtain ⟨fuel, rfl⟩ := Nat.exists_eq_succ_of_ne_zero (Nat.ne_zero_of_lt hfuel)
    rw [List.append_nil]
    exact readMoreItems_close rest fuel done
  | cons v items ih =>
    obtain ⟨fuel, rfl⟩ := Nat.exists_eq_succ_of_ne_zero (Nat.ne_zero_of_lt hfuel)
    have hends := ends_itemChars indent items (ends_newLine outer (closeList :: rest))
    have hitems := ih (fun w hw => h w (List.mem_cons_of_mem v hw)) (Nat.lt_of_succ_lt_succ hfuel)
      (v :: done)
    rw [encode_itemChars, List.cons_append, List.append_assoc, List.append_assoc,
      readMoreItems_comma (h v List.mem_cons_self) hends, hitems, List.reverse_cons, List.append_assoc,
      List.singleton_append]

theorem length_le_itemChars (indent : Nat) (items : List Json) :
    items.length ≤ (encode (itemChars indent items)).length := by
  induction items with
  | nil => exact Nat.zero_le _
  | cons v items ih =>
    rw [encode_itemChars]
    simp only [List.length_cons, List.length_append]
    omega

/-- **A list** is read from behind its opening bracket, if its elements are read. -/
theorem readItems_eq {v : Json}
    (h : ∀ w ∈ v :: items, ReadsAs item (encode (chars indent w)) w) (rest : Bytes) :
    readItems item (encode (newLine indent) ++ (encode (chars indent v) ++
        (encode (itemChars indent items) ++ (encode (newLine outer) ++ closeList :: rest)))) =
      .ok (v :: items, rest) := by
  have hends := ends_itemChars indent items (ends_newLine outer (closeList :: rest))
  have hfirst := h v List.mem_cons_self
  obtain ⟨b, more, htext, hb, hclose, -⟩ := hfirst.begins
  have hread := hfirst.read_eq _ hends
  rw [htext, List.cons_append] at hread
  have hfuel : items.length <
      (encode (itemChars indent items) ++ (encode (newLine outer) ++ closeList :: rest)).length + 1 := by
    have hlength := length_le_itemChars indent items
    rw [List.length_append]
    omega
  rw [readItems, htext, List.cons_append, skipBlank_newLine_cons hb]
  simp only [beq_iff_eq, hclose, if_false, hread]
  exact readMoreItems_eq (fun w hw => h w (List.mem_cons_of_mem v hw)) rest hfuel [v]

/-- A list begins with its bracket, and from behind it it is read as it was written. -/
theorem readItems_chars (indent : Nat)
    (h : ∀ w ∈ items, ReadsAs item (encode (chars (indent + 1) w)) w) :
    ∃ more, encode (chars indent (.array items)) = openList :: more ∧
      ∀ rest, readItems item (more ++ rest) = .ok (items, rest) := by
  cases items with
  | nil => exact ⟨[closeList], rfl, fun _ => rfl⟩
  | cons v items =>
    refine ⟨_, encode_array indent v items, fun rest => ?_⟩
    simp only [List.append_assoc, List.singleton_append]
    exact readItems_eq h rest

end Lists

/-! ### Objects -/

section Objects

variable {σ : Type} {member : MemberReader σ} {known known' : σ} {members : List (String × Json)}

/-- The reader of members takes these members one by one, as they are written, and knows `known'` then. -/
inductive Collects (member : MemberReader σ) (indent : Nat) : σ → List (String × Json) → σ → Prop
  | nil {known : σ} : Collects member indent known [] known
  | cons {known known' known'' : σ} {key : String} {v : Json} {members : List (String × Json)}
      (hread : ∀ rest, Ends rest →
        member known key (colonByte :: 0x20 :: (encode (chars indent v) ++ rest)) = .ok (known', rest))
      (h : Collects member indent known' members known'') :
      Collects member indent known ((key, v) :: members) known''

theorem readKeyed_quoted (member : MemberReader σ) (known : σ) (key : String) (rest : Bytes) :
    readKeyed member known (encode (quoted key) ++ rest) = member known key rest := by
  rw [encode_quoted, List.cons_append, List.append_assoc, List.singleton_append, readKeyed]
  simp only [beq_self_eq_true, if_true, readString_escaped]
  rfl

theorem ends_memberChars (indent : Nat) (members : List (String × Json)) (h : Ends rest) :
    Ends (encode (memberChars indent members) ++ rest) := by
  cases members with
  | nil => exact h
  | cons keyed members =>
    rw [encode_memberChars]
    exact ends_cons ⟨rfl, by decide, rfl⟩

theorem readMoreMembers_close (rest : Bytes) (fuel : Nat) (known : σ) :
    readMoreMembers member (fuel + 1) known (encode (newLine outer) ++ closeObject :: rest) =
      .ok (known, rest) := by
  rw [readMoreMembers, skipBlank_newLine_cons rfl]
  rfl

/-- One more member. -/
theorem readMoreMembers_comma {key : String} (indent fuel : Nat)
    (h : member known key text = .ok (known', rest)) :
    readMoreMembers member (fuel + 1) known
        (commaByte :: (encode (newLine indent) ++ (encode (quoted key) ++ text))) =
      readMoreMembers member fuel known' rest := by
  have hread := readKeyed_quoted member known key text
  obtain ⟨b, more, hquoted, hb, -, hclose⟩ := begins_quoted key
  have hskip := skipBlank_newLine_cons hb indent (more ++ text)
  have hcomma : isBlankByte commaByte = false := rfl
  have hgoesOn : commaByte ≠ closeObject := by decide
  rw [h, hquoted, List.cons_append] at hread
  rw [hquoted]
  simp [readMoreMembers, skipBlank_cons hcomma, hgoesOn, hskip, hclose, hread]

theorem readMoreMembers_eq (h : Collects member indent known members known') (rest : Bytes) {fuel : Nat}
    (hfuel : members.length < fuel) :
    readMoreMembers member fuel known
        (encode (memberChars indent members) ++ (encode (newLine outer) ++ closeObject :: rest)) =
      .ok (known', rest) := by
  induction h generalizing fuel with
  | nil =>
    obtain ⟨fuel, rfl⟩ := Nat.exists_eq_succ_of_ne_zero (Nat.ne_zero_of_lt hfuel)
    exact readMoreMembers_close rest fuel _
  | @cons known known' known'' key v members hread _ ih =>
    obtain ⟨fuel, rfl⟩ := Nat.exists_eq_succ_of_ne_zero (Nat.ne_zero_of_lt hfuel)
    have hends := ends_memberChars indent members (ends_newLine outer (closeObject :: rest))
    have hmore := ih (Nat.lt_of_succ_lt_succ hfuel)
    have hcomma := readMoreMembers_comma indent fuel (hread _ hends)
    rw [encode_memberChars, ← hmore, ← hcomma]
    simp

theorem length_le_memberChars (indent : Nat) (members : List (String × Json)) :
    members.length ≤ (encode (memberChars indent members)).length := by
  induction members with
  | nil => exact Nat.zero_le _
  | cons keyed members ih =>
    rw [encode_memberChars]
    simp only [List.length_cons, List.length_append]
    omega

/-- **An object** is read from behind its opening brace, if its members are collected. -/
theorem readMembers_eq {key : String} {v : Json}
    (h : Collects member indent known ((key, v) :: members) known') (rest : Bytes) :
    readMembers member known (encode (newLine indent) ++ (encode (quoted key) ++
        (colonByte :: 0x20 :: (encode (chars indent v) ++
          (encode (memberChars indent members) ++ (encode (newLine outer) ++ closeObject :: rest)))))) =
      .ok (known', rest) := by
  cases h with
  | @cons _ known₁ _ _ _ _ hread h =>
    have hends := ends_memberChars indent members (ends_newLine outer (closeObject :: rest))
    have hfuel : members.length <
        (encode (memberChars indent members) ++ (encode (newLine outer) ++ closeObject :: rest)).length + 1 := by
      have hlength := length_le_memberChars indent members
      rw [List.length_append]
      omega
    have hfirst := readKeyed_quoted member known key (colonByte :: 0x20 :: (encode (chars indent v) ++
      (encode (memberChars indent members) ++ (encode (newLine outer) ++ closeObject :: rest))))
    obtain ⟨b, more, hquoted, hb, -, hclose⟩ := begins_quoted key
    rw [hread _ hends, hquoted, List.cons_append] at hfirst
    rw [readMembers, hquoted, List.cons_append, skipBlank_newLine_cons hb]
    simp only [beq_iff_eq, hclose, if_false, hfirst]
    exact readMoreMembers_eq h rest hfuel

/-- An object begins with its brace, and from behind it its members are collected. -/
theorem readMembers_chars (indent : Nat) (h : Collects member (indent + 1) known members known') :
    ∃ more, encode (chars indent (.object members)) = openObject :: more ∧
      ∀ rest, readMembers member known (more ++ rest) = .ok (known', rest) := by
  cases members with
  | nil =>
    cases h
    exact ⟨[closeObject], rfl, fun _ => rfl⟩
  | cons keyed members =>
    refine ⟨_, encode_object indent keyed.1 keyed.2 members, fun rest => ?_⟩
    simp only [List.append_assoc, List.cons_append, List.nil_append]
    exact readMembers_eq h rest

end Objects

/-! ### Values -/

/-- The number is whole and has a value of 64 bits. -/
def IsWhole : JsonNumber → Prop
  | .natural n => n ≤ maxNatural
  | .negative n => n ≠ 0 ∧ n ≤ Nat.pow 2 63
  | .float _ => False

/-- The value can be read again once it is written: its lists and objects lie at most `depth` deep inside
each other, its numbers are whole, and no object has a key twice. -/
inductive Fits : Nat → Json → Prop
  | null {depth : Nat} : Fits depth .null
  | bool {depth : Nat} (b : Bool) : Fits depth (.bool b)
  | number {depth : Nat} {n : JsonNumber} (h : IsWhole n) : Fits depth (.number n)
  | string {depth : Nat} (s : String) : Fits depth (.string s)
  | array {depth : Nat} {items : List Json} (h : ∀ v ∈ items, Fits depth v) :
      Fits (depth + 1) (.array items)
  | object {depth : Nat} {members : List (String × Json)} (hkeys : (members.map (·.1)).Nodup)
      (h : ∀ keyed ∈ members, Fits depth keyed.2) : Fits (depth + 1) (.object members)

/-- A byte that begins a value which is neither a list nor an object. -/
def BeginsScalar (b : UInt8) : Prop :=
  isBlankByte b = false ∧ b ≠ openList ∧ b ≠ openObject ∧ b ≠ closeList ∧ b ≠ closeObject

instance (b : UInt8) : Decidable (BeginsScalar b) := inferInstanceAs (Decidable (_ ∧ _))

theorem ne_of_isDigit {b c : UInt8} (hb : isDigit b) (hc : isDigit c = false) : b ≠ c := by
  rintro rfl
  rw [hc] at hb
  cases hb

theorem beginsScalar_of_isDigit {b : UInt8} (h : isDigit b) : BeginsScalar b := by
  have hblank : isBlankByte b = false := by
    simp [isBlankByte, ne_of_isDigit (c := 0x20) h rfl, ne_of_isDigit (c := 0x0A) h rfl,
      ne_of_isDigit (c := 0x09) h rfl, ne_of_isDigit (c := 0x0D) h rfl]
  exact ⟨hblank, ne_of_isDigit h rfl, ne_of_isDigit h rfl, ne_of_isDigit h rfl, ne_of_isDigit h rfl⟩

variable {distinct : Bool} {depth : Nat} {v : Json}

theorem readsAs_scalar {b : UInt8} (hb : BeginsScalar b)
    (hread : ∀ rest, Ends rest → readScalar? b (text ++ rest) = some (.ok (v, rest))) :
    ReadsAs (readValue distinct depth) (b :: text) v where
  begins := ⟨b, text, rfl, hb.1, hb.2.2.2.1, hb.2.2.2.2⟩
  read_eq rest hrest := by
    obtain ⟨hblank, hlist, hobject, -⟩ := hb
    have hskip : skipBlank (b :: text ++ rest) = b :: (text ++ rest) := skipBlank_cons hblank
    rw [readValue, hskip]
    simp only [beq_iff_eq, hlist, hobject, if_false, hread rest hrest]

theorem readsAs_literal {b : UInt8} (hb : BeginsScalar b) (hdigit : isDigit b = false)
    (hquote : b ≠ quoteByte) (hminus : b ≠ minusByte) (hliteral : literal? b = some (word, v)) :
    ReadsAs (readValue distinct depth) (b :: word) v := by
  refine readsAs_scalar hb fun rest _ => ?_
  simp [readScalar?, hdigit, hquote, hminus, hliteral, readWord_append, bind, Except.bind, pure,
    Except.pure]

theorem readsAs_string (s : String) :
    ReadsAs (readValue distinct depth) (encode (quoted s)) (.string s) := by
  rw [encode_quoted]
  refine readsAs_scalar (by decide) fun rest _ => ?_
  rw [List.append_assoc, List.singleton_append]
  simp [readScalar?, readString_escaped, bind, Except.bind, pure, Except.pure]

theorem readsAs_natural {n : Nat} (hn : n ≤ maxNatural) :
    ReadsAs (readValue distinct depth) (encode (Nat.toDigits 10 n)) (.number (.natural n)) := by
  obtain ⟨b, more, hdigits, hdigit⟩ := exists_encode_toDigits n
  have hquote : b ≠ quoteByte := ne_of_isDigit hdigit rfl
  have hminus : b ≠ minusByte := ne_of_isDigit hdigit rfl
  rw [hdigits]
  refine readsAs_scalar (beginsScalar_of_isDigit hdigit) fun rest hrest => ?_
  have hread := readNumber_natural hn hrest
  rw [hdigits, List.cons_append] at hread
  simp [readScalar?, hquote, hminus, hdigit, hread, bind, Except.bind, pure, Except.pure]

theorem readsAs_negative {n : Nat} (hpos : n ≠ 0) (hn : n ≤ Nat.pow 2 63) :
    ReadsAs (readValue distinct depth) (minusByte :: encode (Nat.toDigits 10 n))
      (.number (.negative n)) := by
  have hquote : minusByte ≠ quoteByte := by decide
  refine readsAs_scalar (by decide) fun rest hrest => ?_
  simp [readScalar?, hquote, readNumber_negative hpos hn hrest, bind, Except.bind, pure, Except.pure]

/-- A whole number is read as it was written. -/
theorem readsAs_number {n : JsonNumber} (h : IsWhole n) :
    ReadsAs (readValue distinct depth) (encode n.toText.toList) (.number n) := by
  cases n with
  | natural n =>
    rw [JsonNumber.toText, Nat.toString_eq_ofList_toDigits, String.toList_ofList]
    exact readsAs_natural h
  | negative n =>
    have htext : ("-" ++ toString n).toList = '-' :: Nat.toDigits 10 n := by simp
    rw [JsonNumber.toText, htext]
    exact readsAs_negative h.1 h.2
  | float x => exact h.elim

/-! ### Lists and objects -/

theorem readValue_openList (rest : Bytes) :
    readValue distinct (depth + 1) (openList :: rest) = do
      let (items, rest) ← readItems (readValue distinct depth) rest
      return (.array items, rest) := by
  rw [readValue, skipBlank_cons rfl]
  rfl

/-- The reader of the members of an object. -/
def valueMember (distinct : Bool) (depth : Nat) : MemberReader (List (String × Json)) :=
  fun members key bytes => do
    if distinct && members.any (·.1 == key) then failHere (.duplicateField key) bytes
    else
      let rest ← readColon bytes
      let (value, rest) ← readValue distinct depth rest
      return (setMember key value members, rest)

theorem readValue_openObject (rest : Bytes) :
    readValue distinct (depth + 1) (openObject :: rest) = do
      let (members, rest) ← readMembers (valueMember distinct depth) [] rest
      return (.object members, rest) := by
  rw [readValue, skipBlank_cons rfl]
  rfl

theorem readColon_colon (bytes : Bytes) : readColon (colonByte :: bytes) = .ok bytes := by
  rw [readColon, skipBlank_cons rfl]
  rfl

theorem readValue_blank (bytes : Bytes) :
    readValue distinct depth (0x20 :: bytes) = readValue distinct depth bytes := by
  have hskip : skipBlank (0x20 :: bytes) = skipBlank bytes := List.dropWhile_cons_of_pos rfl
  rw [readValue, readValue, hskip]

theorem setMember_of_notMem {key : String} {members : List (String × Json)}
    (h : key ∉ members.map (·.1)) : setMember key v members = members ++ [(key, v)] := by
  induction members with
  | nil => rfl
  | cons keyed members ih =>
    rw [List.map_cons, List.mem_cons, not_or] at h
    have hne : (keyed.1 == key) = false := beq_eq_false_iff_ne.mpr (Ne.symm h.1)
    rw [setMember, hne, ih h.2]
    rfl

theorem any_key_eq_false {key : String} {members : List (String × Json)}
    (h : key ∉ members.map (·.1)) : members.any (·.1 == key) = false := by
  rw [List.any_eq_false]
  intro keyed hkeyed hsame
  exact h (List.mem_map.mpr ⟨keyed, hkeyed, beq_iff_eq.mp hsame⟩)

/-- Where no key is there twice, the next one is none of those before. -/
theorem notMem_of_nodup_keys {known members : List (String × Json)} {keyed : String × Json}
    (h : ((known ++ keyed :: members).map (·.1)).Nodup) : keyed.1 ∉ known.map (·.1) := by
  rw [List.map_append, List.nodup_append] at h
  intro hmem
  exact h.2.2 keyed.1 hmem keyed.1 List.mem_cons_self rfl

/-- Members with keys that are not yet known are collected in their order. -/
theorem collects_valueMember {members : List (String × Json)}
    (h : ∀ keyed ∈ members, ReadsAs (readValue distinct depth) (encode (chars indent keyed.2)) keyed.2)
    (known : List (String × Json)) (hkeys : ((known ++ members).map (·.1)).Nodup) :
    Collects (valueMember distinct depth) indent known members (known ++ members) := by
  induction members generalizing known with
  | nil =>
    rw [List.append_nil]
    exact .nil
  | cons keyed members ih =>
    -- the key is new, so the member is put behind the known ones
    obtain ⟨key, v⟩ := keyed
    have hnew : key ∉ known.map (·.1) := notMem_of_nodup_keys hkeys
    have hset : known ++ (key, v) :: members = setMember key v known ++ members := by
      rw [setMember_of_notMem hnew, List.append_assoc, List.singleton_append]
    have hrest := ih (fun keyed' h' => h keyed' (List.mem_cons_of_mem _ h')) (setMember key v known)
      (hset ▸ hkeys)
    rw [hset]
    refine .cons (fun rest hends => ?_) hrest
    have hread := (h (key, v) List.mem_cons_self).read_eq rest hends
    have hrepeated : known.any (·.1 == key) = false := any_key_eq_false hnew
    simp [valueMember, hrepeated, readColon_colon, readValue_blank, hread, bind, Except.bind, pure,
      Except.pure]

/-- **A value is read as it was written**, whatever the indentation. -/
theorem Fits.readsAs (h : Fits depth v) (distinct : Bool) (indent : Nat) :
    ReadsAs (readValue distinct depth) (encode (chars indent v)) v := by
  induction h generalizing indent with
  | null => exact readsAs_literal (by decide) rfl (by decide) (by decide) rfl
  | bool b =>
    cases b with
    | false => exact readsAs_literal (by decide) rfl (by decide) (by decide) rfl
    | true => exact readsAs_literal (by decide) rfl (by decide) (by decide) rfl
  | number h => exact readsAs_number h
  | string s => exact readsAs_string s
  | @array depth items _ ih =>
    obtain ⟨more, htext, hread⟩ := readItems_chars indent fun w hw => ih w hw (indent + 1)
    rw [htext]
    refine ⟨⟨openList, more, rfl, rfl, by decide, by decide⟩, fun rest _ => ?_⟩
    rw [List.cons_append, readValue_openList, hread]
    rfl
  | @object depth members hkeys _ ih =>
    have hcollects := collects_valueMember (fun keyed' h' => ih keyed' h' (indent + 1)) [] hkeys
    obtain ⟨more, htext, hread⟩ := readMembers_chars indent hcollects
    rw [htext]
    refine ⟨⟨openObject, more, rfl, rfl, by decide, by decide⟩, fun rest _ => ?_⟩
    rw [List.cons_append, readValue_openObject, hread]
    rfl

/-! ### Documents, and values of a known kind -/

/-- **A document is read as it was written.** -/
theorem Fits.ofText_pretty (h : Fits maxDepth v) : ofText v.pretty = .ok v := by
  have hread := (h.readsAs false 0).read_eq [] ends_nil
  rw [List.append_nil] at hread
  rw [ofText, pretty, Text.toBytes_ofList, ofBytes, hread]
  rfl

/-- A list is read as it was written. -/
theorem readList_chars {items : List Json} (h : Fits (depth + 1) (.array items)) (rest : Bytes) :
    readList (depth + 1) (0x20 :: (encode (chars indent (.array items)) ++ rest)) = .ok (items, rest) := by
  cases h with
  | array h =>
    obtain ⟨more, htext, hread⟩ :=
      readItems_chars indent fun v hv => (h v hv).readsAs false (indent + 1)
    have hskip : skipBlank (0x20 :: openList :: (more ++ rest)) = openList :: (more ++ rest) := rfl
    rw [htext, List.cons_append, readList, hskip]
    exact hread rest

/-- A truth value is read as it was written. -/
theorem readBool_chars (b : Bool) (rest : Bytes) :
    readBool (0x20 :: (encode (chars indent (.bool b)) ++ rest)) = .ok (b, rest) := by
  cases b with
  | true =>
    have hword := readWord_append (Text.toBytes "rue") rest
    show (readWord (Text.toBytes "rue") (Text.toBytes "rue" ++ rest)).map (fun rest => (true, rest)) = _
    rw [hword]
    rfl
  | false =>
    have hword := readWord_append (Text.toBytes "alse") rest
    show (readWord (Text.toBytes "alse") (Text.toBytes "alse" ++ rest)).map (fun rest => (false, rest)) = _
    rw [hword]
    rfl

end Json

end ReplyRules
