import ReplyRules.Text.Utf8

/-!
The bytes of a text, character by character.  The bytes of a text are those of its characters one behind
the other (`Text.toBytes_eq`), and the text can be had back from them (`Text.ofBytes?_toBytes`).  A character
below 128 is one byte, which has its number; all bytes of the other characters are at least 128.  So a byte
below 128 is a character wherever it comes up, and a reader that looks for such bytes needs to know nothing
of UTF-8.

Reading bytes is done in steps that may fail.  All of them together have a result if and only if every step
has one, and the steps can be taken apart from the first one on (`bind_eq_ok`).
-/

namespace ReplyRules

/-! ### Steps that may fail -/

variable {ε α β : Type}

/-- One step behind another: both have a result. -/
theorem bind_eq_ok {first : Except ε α} {next : α → Except ε β} {y : β} :
    first >>= next = .ok y ↔ ∃ x, first = .ok x ∧ next x = .ok y := by
  cases first with
  | error e => simp [bind, Except.bind]
  | ok x => simp [bind, Except.bind]

theorem map_eq_ok {first : Except ε α} {f : α → β} {y : β} :
    first.map f = .ok y ↔ ∃ x, first = .ok x ∧ f x = y := by
  cases first with
  | error e => simp [Except.map]
  | ok x => simp [Except.map]

namespace Text

/-! ### The bytes of a text -/

/-- The bytes of some characters. -/
def encode (cs : List Char) : Bytes := cs.flatMap String.utf8EncodeChar

@[simp] theorem encode_nil : encode [] = [] := rfl

@[simp] theorem encode_cons (c : Char) (cs : List Char) :
    encode (c :: cs) = String.utf8EncodeChar c ++ encode cs := rfl

@[simp] theorem encode_append (cs ds : List Char) : encode (cs ++ ds) = encode cs ++ encode ds :=
  List.flatMap_append

/-- The bytes of a text are those of its characters. -/
theorem toBytes_eq (s : String) : toBytes s = encode s.toList := by
  rw [toBytes, String.toUTF8_eq_toByteArray, ← String.utf8Encode_toList, List.utf8Encode,
    List.data_toByteArray]
  rfl

theorem toBytes_ofList (cs : List Char) : toBytes (String.ofList cs) = encode cs := by
  rw [toBytes_eq, String.toList_ofList]

theorem ofBytes?_toBytes (s : String) : ofBytes? (toBytes s) = some s :=
  dif_pos s.isValidUTF8

/-- A text is known from its bytes. -/
theorem toBytes_inj {s t : String} (h : toBytes s = toBytes t) : s = t := by
  have hs := ofBytes?_toBytes s
  rw [h, ofBytes?_toBytes] at hs
  exact (Option.some.inj hs).symm

/-! ### Characters below 128, and the others -/

theorem utf8EncodeChar_of_lt {c : Char} (h : c.toNat < 0x80) :
    String.utf8EncodeChar c = [UInt8.ofNat c.toNat] :=
  if_pos (Nat.le_of_lt_succ h)

theorem le_ofNat {n : Nat} (h₁ : 0x80 ≤ n) (h₂ : n < 0x100) : 0x80 ≤ UInt8.ofNat n := by
  rwa [UInt8.le_iff_toNat_le, UInt8.toNat_ofNat_of_lt' h₂]

/-- Every byte of a character from 128 is at least 128. -/
theorem le_of_mem_utf8EncodeChar {c : Char} (h : 0x80 ≤ c.toNat) :
    ∀ b ∈ String.utf8EncodeChar c, 0x80 ≤ b := by
  intro b hb
  -- two, three or four bytes; each is at least 128 by its leading bits
  have hascii : ¬ c.val.toNat ≤ 0x7F := Nat.not_le_of_lt h
  simp only [String.utf8EncodeChar, if_neg hascii] at hb
  split at hb
  case isTrue =>
    simp only [List.mem_cons, List.not_mem_nil, or_false] at hb
    rcases hb with rfl | rfl <;> exact le_ofNat (by omega) (by omega)
  case isFalse =>
    split at hb <;> simp only [List.mem_cons, List.not_mem_nil, or_false] at hb
    case isTrue => rcases hb with rfl | rfl | rfl <;> exact le_ofNat (by omega) (by omega)
    case isFalse => rcases hb with rfl | rfl | rfl | rfl <;> exact le_ofNat (by omega) (by omega)

end Text

end ReplyRules
