import ReplyRules.Json.NumberReader
import ReplyRules.Json.Printer
import ReplyRules.Proofs.Text.Utf8

/-!
Whole numbers are read as they were written.  A number is written in decimal digits without zeros in
front; digits are read as long as there are any, so a number is only read again where nothing follows that
would go on with it: no digit, no point and no letter of an exponent (`Json.Ends`).  Numbers of 64 bits keep
their value, with a sign or without (`Json.readNumber_digits`).
-/

namespace ReplyRules.Json

open Text (encode)

/-- Nothing stands here that goes on with a number. -/
def Ends (rest : Bytes) : Prop :=
  ∀ b ∈ rest.head?, isDigit b = false ∧ b ≠ pointByte ∧ isExponentMark b = false

theorem ends_nil : Ends [] := by
  intro b hb
  cases hb

theorem ends_cons {b : UInt8} {rest : Bytes}
    (h : isDigit b = false ∧ b ≠ pointByte ∧ isExponentMark b = false) : Ends (b :: rest) := by
  intro b' hb'
  cases hb'
  exact h

variable {cs : List Char} {rest : Bytes} {n : Nat}

/-! ### Digits -/

/-- A decimal digit is one byte, which is read as the same digit. -/
theorem exists_utf8EncodeChar_digit {c : Char} (h : c.isDigit) :
    ∃ b, String.utf8EncodeChar c = [b] ∧ isDigit b ∧ digitValue b = c.toNat - '0'.toNat := by
  have hbounds : 0x30 ≤ c.toNat ∧ c.toNat ≤ 0x39 := by
    rw [Char.isDigit, Bool.and_eq_true, decide_eq_true_iff, decide_eq_true_iff] at h
    exact h
  have hlt : c.toNat < UInt8.size := Nat.lt_of_le_of_lt hbounds.2 (by decide)
  refine ⟨_, Text.utf8EncodeChar_of_lt (by omega), ?_, ?_⟩
  · rw [isDigit, Bool.and_eq_true, decide_eq_true_iff, decide_eq_true_iff, UInt8.le_iff_toNat_le,
      UInt8.le_iff_toNat_le, UInt8.toNat_ofNat_of_lt' hlt]
    exact hbounds
  · rw [digitValue, UInt8.toNat_ofNat_of_lt' hlt]
    rfl

theorem isDigit_of_mem_encode (h : ∀ c ∈ cs, c.isDigit) : ∀ b ∈ encode cs, isDigit b := by
  intro b hb
  obtain ⟨c, hc, hb⟩ := List.mem_flatMap.mp hb
  obtain ⟨b', hencode, hdigit, -⟩ := exists_utf8EncodeChar_digit (h c hc)
  rw [hencode, List.mem_singleton] at hb
  rwa [hb]

/-- All digits are taken, and nothing of what follows them. -/
theorem spanDigits_encode (h : ∀ c ∈ cs, c.isDigit) (hrest : Ends rest) :
    spanDigits (encode cs ++ rest) = (encode cs, rest) := by
  have hdigits := isDigit_of_mem_encode h
  have hstop : rest.takeWhile isDigit = [] ∧ rest.dropWhile isDigit = rest := by
    cases rest with
    | nil => exact ⟨rfl, rfl⟩
    | cons b rest =>
      have hb : isDigit b = false := (hrest b rfl).1
      simp [hb]
  rw [spanDigits, List.takeWhile_append_of_pos hdigits, List.dropWhile_append_of_pos hdigits, hstop.1,
    hstop.2, List.append_nil]

theorem le_ofDigitChars (cs : List Char) (m : Nat) : m ≤ Nat.ofDigitChars 10 cs m := by
  induction cs generalizing m with
  | nil => exact Nat.le_refl m
  | cons c cs ih =>
    rw [Nat.ofDigitChars_cons]
    have := ih (10 * m + (c.toNat - '0'.toNat))
    omega

/-- Digits are appended to a number as long as the result fits. -/
theorem absorbDigits_encode (h : ∀ c ∈ cs, c.isDigit) (m : Nat)
    (hfits : Nat.ofDigitChars 10 cs m ≤ maxNatural) :
    absorbDigits m (encode cs) = (Nat.ofDigitChars 10 cs m, 0) := by
  induction cs generalizing m with
  | nil => rfl
  | cons c cs ih =>
    obtain ⟨b, hencode, -, hvalue⟩ := exists_utf8EncodeChar_digit (h c List.mem_cons_self)
    rw [Nat.ofDigitChars_cons, Nat.mul_comm 10 m] at hfits ⊢
    -- the number only grows, so it fits here if it fits in the end
    rw [Text.encode_cons, hencode, List.singleton_append, absorbDigits, hvalue,
      if_pos (Nat.le_trans (le_ofDigitChars cs _) hfits)]
    exact ih (fun c' hc' => h c' (List.mem_cons_of_mem c hc')) _ hfits

/-! ### Numbers -/

/-- The digits of a number but 0 do not begin with a zero. -/
theorem exists_toDigits (hn : n ≠ 0) :
    ∃ c cs, Nat.toDigits 10 n = c :: cs ∧ c.toNat - '0'.toNat ≠ 0 := by
  induction n using Nat.strongRecOn with
  | ind n ih =>
    rw [Nat.toDigits_eq_if (by decide)]
    split
    case isTrue hlt =>
      refine ⟨_, [], rfl, ?_⟩
      have hdigits : ∀ d < 10, d ≠ 0 → (Nat.digitChar d).toNat - '0'.toNat ≠ 0 := by decide
      exact hdigits n hlt hn
    case isFalse hlt =>
      -- the first digit is that of `n / 10`
      obtain ⟨c, cs, hdigits, hc⟩ := ih (n / 10) (by omega) (by omega)
      exact ⟨c, cs ++ [Nat.digitChar (n % 10)], by rw [hdigits, List.cons_append], hc⟩

theorem isDigit_of_mem_toDigits : ∀ c ∈ Nat.toDigits 10 n, c.isDigit :=
  fun _ => Nat.isDigit_of_mem_toDigits (by decide) (by decide)

theorem exists_encode_toDigits (n : Nat) :
    ∃ b more, encode (Nat.toDigits 10 n) = b :: more ∧ isDigit b := by
  obtain ⟨c, cs, hdigits⟩ := List.exists_cons_of_ne_nil (Nat.toDigits_ne_nil (n := n) (b := 10))
  have hc : c.isDigit := isDigit_of_mem_toDigits (n := n) c (by simp [hdigits])
  obtain ⟨b, hencode, hdigit, -⟩ := exists_utf8EncodeChar_digit hc
  exact ⟨b, encode cs, by rw [hdigits, Text.encode_cons, hencode, List.singleton_append], hdigit⟩

/-- Where a number ends, its digits were those of a whole number. -/
theorem readAfterWhole_of_ends (hrest : Ends rest) (negative : Bool) (n out : Nat) :
    readAfterWhole negative n out rest = wholeNumber negative n out rest := by
  cases rest with
  | nil => rfl
  | cons b rest =>
    obtain ⟨-, hpoint, hexponent⟩ := hrest b rfl
    simp [readAfterWhole, hpoint, hexponent]

theorem readNumber_zero (hrest : Ends rest) (negative : Bool) :
    readNumber negative (0x30 :: rest) = readAfterWhole negative 0 0 rest := by
  have hzero : isDigit 0x30 = true := rfl
  cases rest with
  | nil => rfl
  | cons b rest =>
    have hb : isDigit b = false := (hrest b rfl).1
    simp [readNumber, hzero, hb]

theorem readNumber_of_ne_zero {b : UInt8} (hdigit : isDigit b) (hzero : b ≠ 0x30) (negative : Bool) :
    readNumber negative (b :: rest) =
      readAfterWhole negative (absorbDigits 0 (spanDigits (b :: rest)).1).1
        (absorbDigits 0 (spanDigits (b :: rest)).1).2 (spanDigits (b :: rest)).2 := by
  simp [readNumber, hdigit, hzero]

/-- **The digits of a number** are read as the number. -/
theorem readNumber_digits (hn : n ≤ maxNatural) (hrest : Ends rest) (negative : Bool) :
    readNumber negative (encode (Nat.toDigits 10 n) ++ rest) = wholeNumber negative n 0 rest := by
  rw [← readAfterWhole_of_ends hrest]
  by_cases hn₀ : n = 0
  · subst hn₀
    exact readNumber_zero hrest negative
  -- no zero stands in front, so all digits are taken at once
  have hdigits : ∀ c ∈ Nat.toDigits 10 n, c.isDigit := isDigit_of_mem_toDigits
  have hvalue : Nat.ofDigitChars 10 (Nat.toDigits 10 n) 0 = n := Nat.ofDigitChars_ten_toDigits
  have habsorb := absorbDigits_encode hdigits 0 (by rwa [hvalue])
  have hspan := spanDigits_encode hdigits hrest
  obtain ⟨c, cs, hcons, hc⟩ := exists_toDigits hn₀
  obtain ⟨b, hencode, hdigit, hb⟩ := exists_utf8EncodeChar_digit (hdigits c (by simp [hcons]))
  have hbytes : encode (Nat.toDigits 10 n) ++ rest = b :: (encode cs ++ rest) := by
    rw [hcons, Text.encode_cons, hencode]
    rfl
  have hzero : b ≠ 0x30 := by
    rintro rfl
    exact hc hb.symm
  rw [hbytes, readNumber_of_ne_zero hdigit hzero, ← hbytes, hspan, habsorb, hvalue]

theorem readNumber_natural (hn : n ≤ maxNatural) (hrest : Ends rest) :
    readNumber false (encode (Nat.toDigits 10 n) ++ rest) = .ok (.natural n, rest) :=
  readNumber_digits hn hrest false

theorem readNumber_negative (hpos : n ≠ 0) (hn : n ≤ Nat.pow 2 63) (hrest : Ends rest) :
    readNumber true (encode (Nat.toDigits 10 n) ++ rest) = .ok (.negative n, rest) := by
  have hfits : n ≤ maxNatural := Nat.le_trans hn (by decide)
  rw [readNumber_digits hfits hrest]
  have hwhole : (n != 0 && decide (n ≤ Nat.pow 2 63)) = true := by
    rw [Bool.and_eq_true, bne_iff_ne, decide_eq_true_iff]
    exact ⟨hpos, hn⟩
  exact if_pos hwhole

end ReplyRules.Json
