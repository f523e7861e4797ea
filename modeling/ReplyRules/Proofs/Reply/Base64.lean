import ReplyRules.Reply.Base64
import ReplyRules.Proofs.Text.Utf8
import Mathlib.Tactic.Ring

/-!
Base64 texts, told by their bits.  Some bytes, their bits one behind the other, are cut into numbers of six
bits, and zeros fill up the last one (`Base64.Regroups`); a text stands for the bytes if its symbols have
these numbers (`Base64.IsTextOf`).  Nothing is said there of how a text is written or read.

That what is written regroups the bytes goes group by group, by the bits of one byte after the other
(`Base64.regroups_numbersOf`).  Reading is strict, and so it is the inverse of writing and not only undoes it:
what is read as some bytes is the very text that is written for them, since a group is only read if there are
no bits behind its last byte (`Base64.eq_encode_of_decodeLast`).

Main results: a text is read as some bytes if and only if it is what they are written as
(`Base64.decode_eq_ok_iff`), and if and only if it stands for them (`Base64.decode_toBytes_eq_ok_iff`).
-/

namespace ReplyRules.Base64

variable {text bytes : Bytes} {width n m start index fill : Nat} {numbers : List Nat}

/-! ### Bits -/

/-- The lowest bits of a number, as many as the width says, the highest of them first. -/
def bits : Nat → Nat → List Bool
  | 0, _ => []
  | width + 1, n => bits width (n / 2) ++ [n % 2 == 1]

@[simp] theorem length_bits (width n : Nat) : (bits width n).length = width := by
  induction width generalizing n with
  | zero => rfl
  | succ width ih => simp [bits, ih]

theorem bits_zero (width : Nat) : bits width 0 = List.replicate width false := by
  induction width with
  | zero => rfl
  | succ width ih =>
    rw [bits, Nat.zero_div, ih, List.replicate_succ']
    rfl

/-- A number that is put together from two is written as the two are. -/
theorem bits_append (width width' high : Nat) {low : Nat} (h : low < 2 ^ width') :
    bits (width + width') (high * 2 ^ width' + low) = bits width high ++ bits width' low := by
  induction width' generalizing low with
  | zero =>
    obtain rfl : low = 0 := Nat.lt_one_iff.mp h
    simp [bits]
  | succ width' ih =>
    -- the lowest bit comes from the lower number
    have hdouble : high * 2 ^ (width' + 1) = 2 * (high * 2 ^ width') := by ring
    have hhalf : (high * 2 ^ (width' + 1) + low) / 2 = high * 2 ^ width' + low / 2 := by omega
    have hlast : (high * 2 ^ (width' + 1) + low) % 2 = low % 2 := by omega
    rw [← Nat.add_assoc, bits, hhalf, hlast, ih (by omega), bits, List.append_assoc]

/-- A number is known from its bits, if there are no more. -/
theorem bits_inj (hn : n < 2 ^ width) (hm : m < 2 ^ width) (h : bits width n = bits width m) : n = m := by
  induction width generalizing n m with
  | zero => omega
  | succ width ih =>
    rw [bits, bits] at h
    obtain ⟨hhigh, hlow⟩ := List.append_inj h (by simp)
    have hhalves : n / 2 = m / 2 := ih (by omega) (by omega) hhigh
    have hlast : (n % 2 == 1) = (m % 2 == 1) := by simpa using hlow
    rw [Bool.eq_iff_iff, beq_iff_eq, beq_iff_eq] at hlast
    omega

/-- So are many numbers, one behind the other, if it is known how many. -/
theorem flatMap_bits_inj {numbers numbers' : List Nat} (hlength : numbers.length = numbers'.length)
    (hn : ∀ n ∈ numbers, n < 2 ^ width) (hm : ∀ n ∈ numbers', n < 2 ^ width)
    (h : numbers.flatMap (bits width) = numbers'.flatMap (bits width)) : numbers = numbers' := by
  induction numbers generalizing numbers' with
  | nil => exact (List.length_eq_zero_iff.mp hlength.symm).symm
  | cons n ns ih =>
    obtain ⟨m, ms, rfl⟩ := List.exists_cons_of_length_eq_add_one hlength.symm
    rw [List.flatMap_cons, List.flatMap_cons] at h
    obtain ⟨hfirst, hrest⟩ := List.append_inj h (by rw [length_bits, length_bits])
    obtain ⟨hn, hns⟩ := List.forall_mem_cons.mp hn
    obtain ⟨hm, hms⟩ := List.forall_mem_cons.mp hm
    rw [bits_inj hn hm hfirst, ih (Nat.succ.inj hlength) hns hms hrest]

theorem length_flatMap_bits (numbers : List Nat) :
    (numbers.flatMap (bits width)).length = width * numbers.length := by
  induction numbers with
  | nil => rfl
  | cons n numbers ih =>
    rw [List.flatMap_cons, List.length_append, length_bits, ih, List.length_cons]
    ring

/-! ### Symbols -/

/-- The symbols in the order of their numbers. -/
def alphabet : String := "ABCDEFGHIJKLMNOPQRSTUVWXYZabcdefghijklmnopqrstuvwxyz0123456789+/"

/-- The symbol of a number below 64. -/
def letter (n : Nat) : Char := alphabet.toList.getD n '='

theorem letter_eq : ∀ n < 64, letter n = Char.ofNat (symbol n).toNat := by
  decide +kernel

theorem value?_symbol : ∀ n < 64, value? (symbol n) = some n := by
  decide

theorem symbol_ne_padByte : ∀ n < 64, symbol n ≠ padByte := by
  decide

theorem symbol_of_value? {b : UInt8} (h : value? b = some n) : n < 64 ∧ b = symbol n := by
  have hall : ∀ k < 256, ∀ n ∈ value? (UInt8.ofNat k), n < 64 ∧ UInt8.ofNat k = symbol n := by
    decide +kernel
  have hb := hall b.toNat b.toNat_lt
  rw [UInt8.ofNat_toNat] at hb
  exact hb n h

/-! ### What a text stands for -/

/-- The numbers have the bits of the bytes, one behind the other, and behind them two zeros for each filling
sign.  Numbers and filling signs make up groups of four. -/
structure Regroups (numbers : List Nat) (fill : Nat) (bytes : Bytes) : Prop where
  lt : ∀ n ∈ numbers, n < 64
  fill_le : fill ≤ 2
  whole : (numbers.length + fill) % 4 = 0
  bits_eq : numbers.flatMap (bits 6) =
    bytes.flatMap (fun b => bits 8 b.toNat) ++ List.replicate (2 * fill) false

/-- Bytes are regrouped in one way only. -/
theorem Regroups.unique {numbers' : List Nat} {fill' : Nat} (h : Regroups numbers fill bytes)
    (h' : Regroups numbers' fill' bytes) : numbers = numbers' ∧ fill = fill' := by
  -- the number of bits tells how much is filled up
  have hlength := congrArg List.length h.bits_eq
  have hlength' := congrArg List.length h'.bits_eq
  rw [length_flatMap_bits, List.length_append, List.length_replicate] at hlength hlength'
  have hfill := h.fill_le
  have hfill' := h'.fill_le
  obtain rfl : fill = fill' := by omega
  exact ⟨flatMap_bits_inj (by omega) h.lt h'.lt (h.bits_eq.trans h'.bits_eq.symm), rfl⟩

/-- Six bits of a byte stand by themselves, and two with those of what follows it. -/
theorem bits_first (a : Nat) {low : Nat} (h : low < 16) (rest : List Bool) :
    bits 6 (a / 4) ++ (bits 6 (a % 4 * 16 + low) ++ rest) = bits 8 a ++ (bits 4 low ++ rest) := by
  have hsplit : bits 8 (a / 4 * 4 + a % 4) = bits 6 (a / 4) ++ bits 2 (a % 4) :=
    bits_append 6 2 _ (by omega)
  have hjoined : bits 6 (a % 4 * 16 + low) = bits 2 (a % 4) ++ bits 4 low :=
    bits_append 2 4 _ h
  rw [Nat.div_add_mod'] at hsplit
  simp only [hjoined, hsplit, List.append_assoc]

/-- Four bits of a byte stand with those of the one before it, and four with those of what follows it. -/
theorem bits_second (b : Nat) {low : Nat} (h : low < 4) (rest : List Bool) :
    bits 4 (b / 16) ++ (bits 6 (b % 16 * 4 + low) ++ rest) = bits 8 b ++ (bits 2 low ++ rest) := by
  have hsplit : bits 8 (b / 16 * 16 + b % 16) = bits 4 (b / 16) ++ bits 4 (b % 16) :=
    bits_append 4 4 _ (by omega)
  have hjoined : bits 6 (b % 16 * 4 + low) = bits 4 (b % 16) ++ bits 2 low :=
    bits_append 4 2 _ h
  rw [Nat.div_add_mod'] at hsplit
  simp only [hjoined, hsplit, List.append_assoc]

/-- Two bits of a byte stand with those of the one before it, and six by themselves. -/
theorem bits_third (c : Nat) (rest : List Bool) :
    bits 2 (c / 64) ++ (bits 6 (c % 64) ++ rest) = bits 8 c ++ rest := by
  have hsplit : bits 8 (c / 64 * 64 + c % 64) = bits 2 (c / 64) ++ bits 6 (c % 64) :=
    bits_append 2 6 _ (by omega)
  rw [Nat.div_add_mod'] at hsplit
  simp only [hsplit, List.append_assoc]

/-! ### Writing -/

/-- The numbers of the symbols that some bytes are written with. -/
def numbersOf : Bytes → List Nat
  | [] => []
  | [a] => [a.toNat / 4, a.toNat % 4 * 16]
  | [a, b] => [a.toNat / 4, a.toNat % 4 * 16 + b.toNat / 16, b.toNat % 16 * 4]
  | a :: b :: c :: rest =>
    (a.toNat / 4) :: (a.toNat % 4 * 16 + b.toNat / 16) :: (b.toNat % 16 * 4 + c.toNat / 64) ::
      (c.toNat % 64) :: numbersOf rest

/-- How many filling signs follow them. -/
def fillOf : Bytes → Nat
  | [] => 0
  | [_] => 2
  | [_, _] => 1
  | _ :: _ :: _ :: rest => fillOf rest

theorem encode_eq (bytes : Bytes) :
    encode bytes = (numbersOf bytes).map symbol ++ List.replicate (fillOf bytes) padByte := by
  fun_induction encode bytes with
  | case1 => rfl
  | case2 a => rfl
  | case3 a b => rfl
  | case4 a b c rest ih =>
    rw [ih]
    rfl

/-- **What is written for some bytes** regroups them. -/
theorem regroups_numbersOf (bytes : Bytes) : Regroups (numbersOf bytes) (fillOf bytes) bytes := by
  -- a group of three bytes leaves nothing over; at the end one byte or two are filled up with zeros
  fun_induction numbersOf bytes with
  | case1 => exact ⟨List.forall_mem_nil _, by decide, rfl, rfl⟩
  | case2 a =>
    have ha := a.toNat_lt
    refine ⟨?_, Nat.le_refl 2, by simp [fillOf], ?_⟩
    · simp only [List.forall_mem_cons]
      exact ⟨by omega, by omega, List.forall_mem_nil _⟩
    · show bits 6 (a.toNat / 4) ++ (bits 6 (a.toNat % 4 * 16 + 0) ++ []) = _
      rw [bits_first _ (by decide), bits_zero]
      simp [fillOf]
  | case3 a b =>
    have ha := a.toNat_lt
    have hb := b.toNat_lt
    refine ⟨?_, Nat.le_succ 1, by simp [fillOf], ?_⟩
    · simp only [List.forall_mem_cons]
      exact ⟨by omega, by omega, by omega, List.forall_mem_nil _⟩
    · show bits 6 (a.toNat / 4) ++ (bits 6 (a.toNat % 4 * 16 + b.toNat / 16) ++
        (bits 6 (b.toNat % 16 * 4 + 0) ++ [])) = _
      rw [bits_first _ (by omega), bits_second _ (by decide), bits_zero]
      simp [fillOf]
  | case4 a b c rest ih =>
    have ha := a.toNat_lt
    have hb := b.toNat_lt
    have hc := c.toNat_lt
    refine ⟨?_, ih.fill_le, ?_, ?_⟩
    · simp only [List.forall_mem_cons]
      exact ⟨by omega, by omega, by omega, by omega, ih.lt⟩
    · have hwhole := ih.whole
      simp only [List.length_cons, fillOf]
      omega
    · simp only [List.flatMap_cons]
      rw [bits_first _ (by omega), bits_second _ (by omega), bits_third, ih.bits_eq]
      simp only [List.append_assoc, fillOf]

/-- A text has groups of four. -/
theorem length_encode (bytes : Bytes) : (encode bytes).length % 4 = 0 := by
  rw [encode_eq, List.length_append, List.length_map, List.length_replicate]
  exact (regroups_numbersOf bytes).whole

theorem encode_ne_nil (b : UInt8) (rest : Bytes) : encode (b :: rest) ≠ [] := by
  rcases rest with _ | ⟨c, _ | ⟨d, rest⟩⟩ <;> simp [encode]

/-! ### Reading -/

theorem valueAt_eq_ok {offset : Nat} {b : UInt8} :
    valueAt offset b = .ok n ↔ n < 64 ∧ b = symbol n := by
  rw [valueAt]
  constructor
  · intro h
    split at h
    · next hvalue =>
      cases h
      exact symbol_of_value? hvalue
    · cases h
  · rintro ⟨hn, rfl⟩
    rw [value?_symbol n hn]

theorem symbol_beq_padByte (h : n < 64) : (symbol n == padByte) = false :=
  beq_eq_false_iff_ne.mpr (symbol_ne_padByte n h)

/-- What the last group is read as. -/
theorem lastGroup_eq_ok :
    lastGroup start index text = .ok (numbers, fill) ↔
      text = numbers.map symbol ++ List.replicate fill padByte ∧ (∀ n ∈ numbers, n < 64) ∧
        (fill = 0 ∨ 2 ≤ index + numbers.length) := by
  constructor
  · intro h
    induction text generalizing index numbers fill with
    | nil =>
      cases h
      exact ⟨rfl, List.forall_mem_nil _, .inl rfl⟩
    | cons b rest ih =>
      rw [lastGroup] at h
      split at h
      case isTrue hpad =>
        -- from here on there is nothing but filling
        split at h
        case isTrue => cases h
        case isFalse hindex =>
          split at h
          case isTrue hrest =>
            cases h
            have hall : b :: rest = List.replicate (rest.length + 1) padByte := by
              rw [List.eq_replicate_iff]
              refine ⟨rfl, ?_⟩
              simpa [beq_iff_eq.mp hpad] using hrest
            exact ⟨hall, List.forall_mem_nil _, .inr (Nat.le_of_not_lt hindex)⟩
          case isFalse => cases h
      case isFalse hpad =>
        obtain ⟨n, hvalue, h⟩ := bind_eq_ok.mp h
        obtain ⟨⟨ns, fill'⟩, hrest, h⟩ := bind_eq_ok.mp h
        cases h
        obtain ⟨hn, rfl⟩ := valueAt_eq_ok.mp hvalue
        obtain ⟨rfl, hns, hfill⟩ := ih hrest
        refine ⟨rfl, List.forall_mem_cons.mpr ⟨hn, hns⟩, ?_⟩
        rw [List.length_cons]
        omega
  · rintro ⟨rfl, hlt, hfill⟩
    induction numbers generalizing index with
    | nil =>
      cases fill with
      | zero => rfl
      | succ fill =>
        have hindex : ¬ index < 2 := Nat.not_lt.mpr (hfill.resolve_left (Nat.succ_ne_zero fill))
        simp [List.replicate_succ, lastGroup, hindex]
    | cons n numbers ih =>
      obtain ⟨hn, hns⟩ := List.forall_mem_cons.mp hlt
      rw [List.length_cons] at hfill
      have hrest := @ih (index + 1) hns (by omega)
      have hvalue : valueAt (start + index) (symbol n) = .ok n := valueAt_eq_ok.mpr ⟨hn, rfl⟩
      rw [List.map_cons, List.cons_append, lastGroup, symbol_beq_padByte hn, hvalue, hrest]
      rfl

theorem toNat_ofNat (h : n < 256) : (UInt8.ofNat n).toNat = n :=
  UInt8.toNat_ofNat_of_lt' h

/-- Three bytes that are put together from four numbers are written as these. -/
theorem encode_joined {a b c d : Nat} (ha : a < 64) (hb : b < 64) (hc : c < 64) (hd : d < 64)
    (more : Bytes) :
    encode (joined a b c d ++ more) = symbol a :: symbol b :: symbol c :: symbol d :: encode more := by
  have hx : (UInt8.ofNat (a * 4 + b / 16)).toNat = a * 4 + b / 16 := toNat_ofNat (by omega)
  have hy : (UInt8.ofNat (b % 16 * 16 + c / 4)).toNat = b % 16 * 16 + c / 4 := toNat_ofNat (by omega)
  have hz : (UInt8.ofNat (c % 4 * 64 + d)).toNat = c % 4 * 64 + d := toNat_ofNat (by omega)
  have hfirst : (a * 4 + b / 16) / 4 = a := by omega
  have hsecond : (a * 4 + b / 16) % 4 * 16 + (b % 16 * 16 + c / 4) / 16 = b := by omega
  have hthird : (b % 16 * 16 + c / 4) % 16 * 4 + (c % 4 * 64 + d) / 64 = c := by omega
  have hfourth : (c % 4 * 64 + d) % 64 = d := by omega
  simp only [joined, List.cons_append, List.nil_append, encode, hx, hy, hz, hfirst, hsecond, hthird,
    hfourth]

/-- The bytes that are put together from the numbers of three bytes. -/
theorem joined_numbers (a b c : UInt8) :
    joined (a.toNat / 4) (a.toNat % 4 * 16 + b.toNat / 16) (b.toNat % 16 * 4 + c.toNat / 64)
      (c.toNat % 64) = [a, b, c] := by
  have ha := a.toNat_lt
  have hb := b.toNat_lt
  have hc := c.toNat_lt
  have hfirst : a.toNat / 4 * 4 + (a.toNat % 4 * 16 + b.toNat / 16) / 16 = a.toNat := by omega
  have hsecond : (a.toNat % 4 * 16 + b.toNat / 16) % 16 * 16 +
      (b.toNat % 16 * 4 + c.toNat / 64) / 4 = b.toNat := by omega
  have hthird : (b.toNat % 16 * 4 + c.toNat / 64) % 4 * 64 + c.toNat % 64 = c.toNat := by omega
  rw [joined, hfirst, hsecond, hthird]
  simp only [UInt8.ofNat_toNat]

/-- Two bytes, if there are no bits behind them. -/
theorem encode_joined_two {a b c : Nat} (ha : a < 64) (hb : b < 64) (hc : c < 64) (hrest : c % 4 = 0) :
    encode ((joined a b c 0).take 2) = [symbol a, symbol b, symbol c, padByte] := by
  have hx : (UInt8.ofNat (a * 4 + b / 16)).toNat = a * 4 + b / 16 := toNat_ofNat (by omega)
  have hy : (UInt8.ofNat (b % 16 * 16 + c / 4)).toNat = b % 16 * 16 + c / 4 := toNat_ofNat (by omega)
  have hfirst : (a * 4 + b / 16) / 4 = a := by omega
  have hsecond : (a * 4 + b / 16) % 4 * 16 + (b % 16 * 16 + c / 4) / 16 = b := by omega
  have hthird : (b % 16 * 16 + c / 4) % 16 * 4 = c := by omega
  simp only [joined, List.take, encode, hx, hy, hfirst, hsecond, hthird]

/-- One byte, if there are no bits behind it. -/
theorem encode_joined_one {a b : Nat} (ha : a < 64) (hb : b < 64) (hrest : b % 16 = 0) :
    encode ((joined a b 0 0).take 1) = [symbol a, symbol b, padByte, padByte] := by
  have hx : (UInt8.ofNat (a * 4 + b / 16)).toNat = a * 4 + b / 16 := toNat_ofNat (by omega)
  have hfirst : (a * 4 + b / 16) / 4 = a := by omega
  have hsecond : (a * 4 + b / 16) % 4 * 16 = b := by omega
  simp only [joined, List.take, encode, hx, hfirst, hsecond]

/-- The last group is what some bytes are written as. -/
theorem eq_encode_of_decodeLast (hshort : text.length ≤ 4) (h : decodeLast start text = .ok bytes) :
    text = encode bytes := by
  obtain ⟨⟨numbers, fill⟩, hgroup, h⟩ := bind_eq_ok.mp h
  obtain ⟨htext, hlt, -⟩ := lastGroup_eq_ok.mp hgroup
  have hlength : numbers.length + fill = text.length := by
    rw [htext, List.length_append, List.length_map, List.length_replicate]
  dsimp only at h
  split at h
  case isTrue => cases h
  case isFalse htwo =>
    split at h
    case isTrue => cases h
    case isFalse hwhole =>
      have htwo : 2 ≤ numbers.length ∨ text.length = 0 := by
        rw [Bool.and_eq_true, decide_eq_true_eq, decide_eq_true_eq] at htwo
        omega
      have hwhole : (numbers.length + fill) % 4 = 0 := not_not.mp hwhole
      -- by the numbers in the group, of which there are none, two, three or four
      rcases numbers with _ | ⟨a, _ | ⟨b, _ | ⟨c, _ | ⟨d, _ | ⟨e, numbers⟩⟩⟩⟩⟩
      case nil =>
        cases h
        exact List.length_eq_zero_iff.mp (htwo.resolve_left (by decide))
      all_goals
        simp only [List.length_cons, List.length_nil, List.forall_mem_cons] at htwo hwhole hlength hlt
        dsimp only at h
      case cons.nil => omega
      case cons.cons.nil =>
        obtain rfl : fill = 2 := by omega
        split at h
        case isTrue hrest =>
          cases h
          rw [encode_joined_one hlt.1 hlt.2.1 (beq_iff_eq.mp hrest), htext]
          rfl
        case isFalse => cases h
      case cons.cons.cons.nil =>
        obtain rfl : fill = 1 := by omega
        split at h
        case isTrue hrest =>
          cases h
          rw [encode_joined_two hlt.1 hlt.2.1 hlt.2.2.1 (beq_iff_eq.mp hrest), htext]
          rfl
        case isFalse => cases h
      case cons.cons.cons.cons.nil =>
        obtain rfl : fill = 0 := by omega
        cases h
        have hencode := encode_joined hlt.1 hlt.2.1 hlt.2.2.1 hlt.2.2.2.1 []
        rw [List.append_nil] at hencode
        rw [hencode, htext]
        rfl
      case cons.cons.cons.cons.cons => omega

theorem lastGroup_encode (start : Nat) (bytes : Bytes) :
    lastGroup start 0 (encode bytes) = .ok (numbersOf bytes, fillOf bytes) := by
  have hregroups := regroups_numbersOf bytes
  have hwhole := hregroups.whole
  have hfill := hregroups.fill_le
  exact lastGroup_eq_ok.mpr ⟨encode_eq bytes, hregroups.lt, by omega⟩

/-- What at most three bytes are written as is read as a last group. -/
theorem decodeLast_encode (bytes : Bytes) (hshort : bytes.length ≤ 3) (hfirst : bytes = [] → start = 0) :
    decodeLast start (encode bytes) = .ok bytes := by
  rw [decodeLast, lastGroup_encode]
  rcases bytes with _ | ⟨a, _ | ⟨b, _ | ⟨c, _ | ⟨d, bytes⟩⟩⟩⟩
  case nil =>
    obtain rfl : start = 0 := hfirst rfl
    rfl
  case cons.nil =>
    have hbyte : (joined (a.toNat / 4) (a.toNat % 4 * 16) 0 0).take 1 = [a] :=
      congrArg (List.take 1) (joined_numbers a 0 0)
    simp [numbersOf, fillOf, bind, Except.bind, hbyte]
  case cons.cons.nil =>
    have hbytes : (joined (a.toNat / 4) (a.toNat % 4 * 16 + b.toNat / 16) (b.toNat % 16 * 4) 0).take 2 =
        [a, b] := congrArg (List.take 2) (joined_numbers a b 0)
    simp [numbersOf, fillOf, bind, Except.bind, hbytes]
  case cons.cons.cons.nil =>
    simp [numbersOf, fillOf, bind, Except.bind, joined_numbers]
  case cons.cons.cons.cons =>
    have hlong : bytes.length + 4 ≤ 3 := hshort
    omega

/-- The groups from an offset on are what some bytes are written as. -/
theorem eq_encode_of_decodeFrom (h : decodeFrom start text = .ok bytes) : text = encode bytes := by
  fun_induction decodeFrom start text generalizing bytes with
  | case1 start w x y z e rest ih =>
    obtain ⟨a, hw, h⟩ := bind_eq_ok.mp h
    obtain ⟨b, hx, h⟩ := bind_eq_ok.mp h
    obtain ⟨c, hy, h⟩ := bind_eq_ok.mp h
    obtain ⟨d, hz, h⟩ := bind_eq_ok.mp h
    obtain ⟨more, hmore, h⟩ := bind_eq_ok.mp h
    cases h
    obtain ⟨ha, rfl⟩ := valueAt_eq_ok.mp hw
    obtain ⟨hb, rfl⟩ := valueAt_eq_ok.mp hx
    obtain ⟨hc, rfl⟩ := valueAt_eq_ok.mp hy
    obtain ⟨hd, rfl⟩ := valueAt_eq_ok.mp hz
    rw [encode_joined ha hb hc hd, ← ih hmore]
  | case2 start text hshort =>
    refine eq_encode_of_decodeLast ?_ h
    rcases text with _ | ⟨w, _ | ⟨x, _ | ⟨y, _ | ⟨z, _ | ⟨e, rest⟩⟩⟩⟩⟩
    case cons.cons.cons.cons.cons => exact (hshort w x y z e rest rfl).elim
    all_goals simp

/-- What some bytes are written as is read as these bytes. -/
theorem decodeFrom_encode (hfirst : bytes = [] → start = 0) :
    decodeFrom start (encode bytes) = .ok bytes := by
  fun_induction encode bytes generalizing start with
  | case1 => exact decodeLast_encode [] (by decide) hfirst
  | case2 a => exact decodeLast_encode [a] (by simp) hfirst
  | case3 a b => exact decodeLast_encode [a, b] (by simp) hfirst
  | case4 a b c rest ih =>
    cases rest with
    | nil => exact decodeLast_encode [a, b, c] (by simp) hfirst
    | cons d rest =>
      obtain ⟨e, more, hencode⟩ := List.exists_cons_of_ne_nil (encode_ne_nil d rest)
      have hrest := @ih (start + 4) fun h => nomatch h
      have ha := a.toNat_lt
      have hb := b.toNat_lt
      have hc := c.toNat_lt
      have hvalue {n : Nat} (offset : Nat) (hn : n < 64) : valueAt offset (symbol n) = .ok n :=
        valueAt_eq_ok.mpr ⟨hn, rfl⟩
      rw [hencode] at hrest ⊢
      rw [decodeFrom, hvalue _ (by omega), hvalue _ (by omega), hvalue _ (by omega), hvalue _ (by omega),
        hrest]
      simp [bind, Except.bind, pure, Except.pure, joined_numbers]

/-- **A text is read as the bytes that it is written for**, and no other text is read as anything. -/
theorem decode_eq_ok_iff : decode text = .ok bytes ↔ text = encode bytes := by
  constructor
  · intro h
    rw [decode] at h
    split at h
    · cases h
    · exact eq_encode_of_decodeFrom h
  · rintro rfl
    have hstray : strayByte? (encode bytes) = none := by
      rw [strayByte?, length_encode]
      rfl
    rw [decode, hstray]
    exact decodeFrom_encode fun _ => rfl

/-! ### Texts -/

/-- The text stands for the bytes: it consists of symbols, the numbers of which regroup the bytes, and of the
filling signs behind them. -/
def IsTextOf (text : String) (bytes : Bytes) : Prop :=
  ∃ numbers fill, Regroups numbers fill bytes ∧
    text.toList = numbers.map letter ++ List.replicate fill '='

theorem utf8EncodeChar_letter (h : n < 64) : String.utf8EncodeChar (letter n) = [symbol n] := by
  have hall : ∀ n < 64, (letter n).toNat < 0x80 ∧ UInt8.ofNat (letter n).toNat = symbol n := by
    decide +kernel
  obtain ⟨hascii, hsymbol⟩ := hall n h
  rw [Text.utf8EncodeChar_of_lt hascii, hsymbol]

/-- Every sign of a text is one byte. -/
theorem encode_letters (h : ∀ n ∈ numbers, n < 64) (fill : Nat) :
    Text.encode (numbers.map letter ++ List.replicate fill '=') =
      numbers.map symbol ++ List.replicate fill padByte := by
  rw [Text.encode_append]
  congr 1
  · induction numbers with
    | nil => rfl
    | cons n numbers ih =>
      obtain ⟨hn, hns⟩ := List.forall_mem_cons.mp h
      rw [List.map_cons, Text.encode_cons, utf8EncodeChar_letter hn, ih hns]
      rfl
  · induction fill with
    | zero => rfl
    | succ fill ih =>
      rw [List.replicate_succ, Text.encode_cons, ih]
      rfl

/-- A text stands for some bytes if and only if it is what they are written as. -/
theorem isTextOf_iff {s : String} : IsTextOf s bytes ↔ Text.toBytes s = encode bytes := by
  have hregroups := regroups_numbersOf bytes
  constructor
  · rintro ⟨numbers, fill, h, hs⟩
    obtain ⟨rfl, rfl⟩ := h.unique hregroups
    rw [Text.toBytes_eq, hs, encode_letters hregroups.lt, encode_eq]
  · intro h
    refine ⟨_, _, hregroups, ?_⟩
    rw [encode_eq, ← encode_letters hregroups.lt, ← Text.toBytes_ofList] at h
    rw [Text.toBytes_inj h, String.toList_ofList]

/-- **A text is read as the bytes that it stands for**, and a text that stands for none is refused. -/
theorem decode_toBytes_eq_ok_iff {s : String} : decode (Text.toBytes s) = .ok bytes ↔ IsTextOf s bytes := by
  rw [decode_eq_ok_iff, isTextOf_iff]

/-- The text that some bytes are written as. -/
theorem isTextOf_ofList (bytes : Bytes) :
    IsTextOf (String.ofList ((encode bytes).map fun b => Char.ofNat b.toNat)) bytes := by
  have hregroups := regroups_numbersOf bytes
  refine ⟨_, _, hregroups, ?_⟩
  rw [String.toList_ofList, encode_eq, List.map_append, List.map_map, List.map_replicate]
  congr 1
  exact List.map_congr_left fun n hn => (letter_eq n (hregroups.lt n hn)).symm

end ReplyRules.Base64
