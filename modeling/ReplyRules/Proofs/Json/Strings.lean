import ReplyRules.Json.StringReader
import ReplyRules.Json.Printer
import ReplyRules.Proofs.Text.Utf8

/-!
Strings are read as they were written.  A reader of strings takes a text piece by piece; what a text comes
to, whatever stands behind it, is `Json.Spells`.  What is written for a character spells the bytes of the
character (`Json.spells_escapeChar`): an escape is one piece, and of a character that is written as it is
each byte is one, for no such byte is a quotation mark, a backslash or a control.
-/

namespace ReplyRules.Json

open Text (encode)

/-- The text is read piece by piece, whatever stands behind it, and comes to `content`. -/
inductive Spells : Bytes → Bytes → Prop
  | nil : Spells [] []
  | cons {bytes piece text content : Bytes}
      (hread : ∀ rest, readPiece (bytes ++ rest) = .ok (some piece, rest)) (hne : bytes ≠ [])
      (h : Spells text content) : Spells (bytes ++ text) (piece ++ content)

variable {text text' content content' : Bytes}

theorem Spells.append (h : Spells text content) (h' : Spells text' content') :
    Spells (text ++ text') (content ++ content') := by
  induction h with
  | nil => exact h'
  | cons hread hne _ ih =>
    rw [List.append_assoc, List.append_assoc]
    exact .cons hread hne ih

/-- A text is read up to the quotation mark behind it. -/
theorem Spells.readPieces_eq (h : Spells text content) (rest : Bytes) {fuel : Nat}
    (hfuel : text.length < fuel) (pieces : List Bytes) :
    readPieces fuel pieces (text ++ quoteByte :: rest) = .ok (pieces.reverse.flatten ++ content, rest) := by
  induction h generalizing fuel pieces with
  | nil =>
    obtain ⟨fuel, rfl⟩ := Nat.exists_eq_succ_of_ne_zero (Nat.ne_zero_of_lt hfuel)
    rw [List.append_nil]
    rfl
  | @cons bytes piece text content hread hne _ ih =>
    -- a piece takes one step and at least one byte
    obtain ⟨fuel, rfl⟩ := Nat.exists_eq_succ_of_ne_zero (Nat.ne_zero_of_lt hfuel)
    have hpos : 0 < bytes.length := List.length_pos_iff.mpr hne
    have hlt : text.length < fuel := by
      rw [List.length_append] at hfuel
      omega
    rw [List.append_assoc, readPieces, hread]
    simp only
    rw [ih hlt, List.reverse_cons, List.flatten_append, List.flatten_singleton, List.append_assoc]

/-! ### What is written for a character -/

/-- A byte that stands for itself in a string. -/
def IsVerbatim (b : UInt8) : Prop := b ≠ quoteByte ∧ b ≠ backslashByte ∧ ¬ b < 0x20

theorem readPiece_verbatim {b : UInt8} (h : IsVerbatim b) (rest : Bytes) :
    readPiece (b :: rest) = .ok (some [b], rest) := by
  obtain ⟨hquote, hbackslash, hcontrol⟩ := h
  simp only [readPiece, beq_iff_eq, if_neg hquote, if_neg hbackslash, if_neg hcontrol]

theorem spells_verbatim (h : ∀ b ∈ text, IsVerbatim b) : Spells text text := by
  induction text with
  | nil => exact .nil
  | cons b text ih =>
    have hread : ∀ rest, readPiece ([b] ++ rest) = .ok (some [b], rest) :=
      readPiece_verbatim (h b List.mem_cons_self)
    exact .cons hread (List.cons_ne_nil _ _) (ih fun b' hb' => h b' (List.mem_cons_of_mem b hb'))

theorem charBytes_eq (c : Char) : charBytes c = String.utf8EncodeChar c := by
  rw [charBytes, Text.toBytes_eq, String.toList_singleton, Text.encode_cons, Text.encode_nil,
    List.append_nil]

theorem spells_escape {c : Char} (text : Bytes) (h : ∀ rest, readEscaped (text ++ rest) = .ok (c, rest)) :
    Spells (backslashByte :: text) (String.utf8EncodeChar c) := by
  have hread : ∀ rest, readPiece (backslashByte :: text ++ rest) = .ok (some (charBytes c), rest) := by
    intro rest
    have hquote : backslashByte ≠ quoteByte := by decide
    simp [readPiece, hquote, h, bind, Except.bind, pure, Except.pure]
  have hspells := Spells.cons hread (List.cons_ne_nil _ _) .nil
  rwa [List.append_nil, List.append_nil, charBytes_eq] at hspells

theorem isVerbatim_of_mem_utf8EncodeChar {c : Char} (hquote : c ≠ '"') (hbackslash : c ≠ '\\')
    (hcontrol : ¬ c < ' ') : ∀ b ∈ String.utf8EncodeChar c, IsVerbatim b := by
  intro b hb
  by_cases hascii : c.toNat < 0x80
  · -- the byte has the number of the character
    rw [Text.utf8EncodeChar_of_lt hascii, List.mem_singleton] at hb
    have htoNat : b.toNat = c.toNat := by
      rw [hb]
      exact UInt8.toNat_ofNat_of_lt' (Nat.lt_trans hascii (by decide))
    refine ⟨fun h => hquote ?_, fun h => hbackslash ?_, fun h => hcontrol ?_⟩
    · rw [← Char.toNat_inj, ← htoNat, h]
      rfl
    · rw [← Char.toNat_inj, ← htoNat, h]
      rfl
    · show c.toNat < 0x20
      rw [← htoNat]
      exact h
  · -- the byte is beyond all the three
    have hle := Text.le_of_mem_utf8EncodeChar (Nat.le_of_not_lt hascii) b hb
    rw [UInt8.le_iff_toNat_le] at hle
    refine ⟨fun h => ?_, fun h => ?_, fun h => ?_⟩
    · rw [h] at hle
      exact absurd hle (by decide)
    · rw [h] at hle
      exact absurd hle (by decide)
    · rw [UInt8.lt_iff_toNat_lt] at h
      exact absurd (Nat.lt_of_le_of_lt hle h) (by decide)

theorem hexValue?_digitChar : ∀ d < 16,
    String.utf8EncodeChar (Nat.digitChar d) = [UInt8.ofNat (Nat.digitChar d).toNat] ∧
      hexValue? (UInt8.ofNat (Nat.digitChar d).toNat) = some d := by
  decide

/-- A hexadecimal digit is one byte, which has the value of the digit. -/
theorem exists_utf8EncodeChar_hexDigit (n : Nat) :
    ∃ b, String.utf8EncodeChar (hexDigit n) = [b] ∧ hexValue? b = some (n % 16) :=
  ⟨_, hexValue?_digitChar (n % 16) (Nat.mod_lt n (by decide))⟩

theorem readHex4_byte {n : Nat} (h : n < 0x100) (rest : Bytes) :
    readHex4 (encode ['0', '0', hexDigit (n / 16), hexDigit n] ++ rest) = .ok (n, rest) := by
  obtain ⟨a, hencode_a, ha⟩ := exists_utf8EncodeChar_hexDigit (n / 16)
  obtain ⟨b, hencode_b, hb⟩ := exists_utf8EncodeChar_hexDigit n
  have hzero : hexValue? 0x30 = some 0 := rfl
  have hvalue : ((0 * 16 + 0) * 16 + n / 16 % 16) * 16 + n % 16 = n := by omega
  have hencode : encode ['0', '0', hexDigit (n / 16), hexDigit n] = [0x30, 0x30, a, b] := by
    simp only [Text.encode_cons, Text.encode_nil, hencode_a, hencode_b]
    rfl
  rw [hencode]
  simp only [List.cons_append, List.nil_append, readHex4, hzero, ha, hb, hvalue]

/-- A control is read from its number. -/
theorem readNumbered_control {c : Char} (h : c < ' ') (rest : Bytes) :
    readNumbered (encode ['0', '0', hexDigit (c.toNat / 16), hexDigit c.toNat] ++ rest) = .ok (c, rest) := by
  have hlt : c.toNat < 0x20 := h
  have hlow : ¬ 0xDC00 ≤ c.toNat := by omega
  have hhigh : ¬ 0xD800 ≤ c.toNat := by omega
  rw [readNumbered, readHex4_byte (by omega)]
  simp [hlow, hhigh, bind, Except.bind]

theorem spells_escapeChar (c : Char) : Spells (encode (escapeChar c)) (String.utf8EncodeChar c) := by
  unfold escapeChar
  split
  case h_8 _ hquote hbackslash _ _ _ _ _ =>
    split
    case isTrue hcontrol =>
      exact spells_escape (0x75 :: encode ['0', '0', hexDigit (c.toNat / 16), hexDigit c.toNat])
        (readNumbered_control hcontrol)
    case isFalse hcontrol =>
      rw [Text.encode_cons, Text.encode_nil, List.append_nil]
      exact spells_verbatim (isVerbatim_of_mem_utf8EncodeChar hquote hbackslash hcontrol)
  -- an escape of one letter
  all_goals exact spells_escape [_] fun _ => rfl

/-- **What is written between the quotation marks** spells the text. -/
theorem spells_escaped (cs : List Char) : Spells (encode (cs.flatMap escapeChar)) (encode cs) := by
  induction cs with
  | nil => exact .nil
  | cons c cs ih =>
    rw [List.flatMap_cons, Text.encode_append, Text.encode_cons]
    exact (spells_escapeChar c).append ih

/-- A string is read as it was written, from behind the first quotation mark. -/
theorem readString_escaped (s : String) (rest : Bytes) :
    readString (encode (s.toList.flatMap escapeChar) ++ quoteByte :: rest) = .ok (s, rest) := by
  have hfuel : (encode (s.toList.flatMap escapeChar)).length <
      (encode (s.toList.flatMap escapeChar) ++ quoteByte :: rest).length + 1 := by
    rw [List.length_append]
    omega
  have hpieces := (spells_escaped s.toList).readPieces_eq rest hfuel []
  rw [List.reverse_nil, List.flatten_nil, List.nil_append, ← Text.toBytes_eq] at hpieces
  rw [readString, hpieces]
  simp [Text.ofBytes?_toBytes, bind, Except.bind]

end ReplyRules.Json
