import ReplyRules.Json.Skip
import ReplyRules.Proofs.Text.Utf8

/-!
Strings, numbers and words that are passed over.  What passes over a value is not what reads it: it looks at
one escape at a time, where the reader puts two halves of a character together, and it cares for the form of
a number, where the reader makes one of it.  Still, what the reader reads is passed over, up to the same place
(`skipString_of_readString`, `skipNumber_of_readNumber`); the converse is not so, since a number may be too
great and half of a character stand alone.

What is passed over is not empty, and is told so by the length of what is left (`length_of_skipStringWith`
and its like), since passing over a value goes on until its steps are used up.

Main result: a value that is read, and is neither a list nor an object, is passed over
(`skipScalar?_of_readScalar?`).
-/

namespace ReplyRules.Json

variable {bytes rest : Bytes} {b : UInt8}

/-! ### What is left -/

theorem length_dropWhile_le (p : UInt8 → Bool) (bytes : Bytes) :
    (bytes.dropWhile p).length ≤ bytes.length :=
  (List.dropWhile_suffix p).length_le

/-- What stands behind the blanks is not blank. -/
theorem isBlankByte_of_skipBlank (h : skipBlank bytes = b :: rest) : isBlankByte b = false := by
  have hhead := List.head?_dropWhile_not isBlankByte bytes
  rw [skipBlank] at h
  rw [h] at hhead
  exact hhead

theorem length_of_skipBlank (h : skipBlank bytes = b :: rest) : rest.length < bytes.length := by
  have hle := length_dropWhile_le isBlankByte bytes
  rw [← skipBlank, h, List.length_cons] at hle
  exact hle

/-! ### Strings -/

theorem length_of_readHex4 {n : Nat} (h : readHex4 bytes = .ok (n, rest)) :
    bytes.length = rest.length + 4 := by
  unfold readHex4 at h
  split at h
  case h_1 =>
    split at h
    case h_1 =>
      cases h
      rfl
    case h_2 => cases h
  case h_2 => cases h

theorem length_of_skipEscape (h : skipEscape bytes = .ok rest) : rest.length < bytes.length := by
  cases bytes with
  | nil => cases h
  | cons b more =>
    rw [skipEscape] at h
    split at h
    case isTrue =>
      obtain ⟨⟨n, rest⟩, hhex, rfl⟩ := map_eq_ok.mp h
      have hlength := length_of_readHex4 hhex
      simp only [List.length_cons, hlength]
      omega
    case isFalse =>
      split at h
      case isTrue =>
        cases h
        exact Nat.lt_succ_self _
      case isFalse => cases h

theorem readPairByte_eq_ok {expected : UInt8} (h : readPairByte expected bytes = .ok rest) :
    bytes = expected :: rest := by
  cases bytes with
  | nil => cases h
  | cons b more =>
    rw [readPairByte] at h
    split at h
    case isTrue hb =>
      cases h
      rw [beq_iff_eq.mp hb]
    case isFalse => cases h

/-- Only at a quotation mark there is no further piece. -/
theorem eq_of_readPiece_none (h : readPiece bytes = .ok (none, rest)) : bytes = quoteByte :: rest := by
  cases bytes with
  | nil => cases h
  | cons b more =>
    rw [readPiece] at h
    split at h
    case isTrue hquote =>
      cases h
      rw [beq_iff_eq.mp hquote]
    case isFalse =>
      split at h
      case isTrue =>
        obtain ⟨⟨c, rest⟩, -, h⟩ := bind_eq_ok.mp h
        cases h
      case isFalse =>
        split at h
        case isTrue => cases h
        case isFalse => cases h

theorem skipEscape_number (bytes : Bytes) :
    skipEscape (0x75 :: bytes) = (readHex4 bytes).map (·.2) := rfl

/-- A character that is given by its number is one escape, or two, for its two halves. -/
theorem skipEscape_of_readNumbered {c : Char} (h : readNumbered bytes = .ok (c, rest)) :
    skipEscape (0x75 :: bytes) = .ok rest ∨
      ∃ mid, skipEscape (0x75 :: bytes) = .ok (backslashByte :: mid) ∧ skipEscape mid = .ok rest := by
  obtain ⟨⟨first, rest₁⟩, hfirst, h⟩ := bind_eq_ok.mp h
  simp only [skipEscape_number, hfirst, Except.map]
  dsimp only at h
  -- a second half alone, a first half with the second one behind it, or a whole character
  split at h
  case isTrue => cases h
  case isFalse =>
    split at h
    case isTrue =>
      obtain ⟨rest₂, hbackslash, h⟩ := bind_eq_ok.mp h
      obtain ⟨rest₃, hletter, h⟩ := bind_eq_ok.mp h
      obtain ⟨⟨second, rest₄⟩, hsecond, h⟩ := bind_eq_ok.mp h
      dsimp only at h
      split at h
      case isTrue =>
        obtain ⟨-, rfl⟩ := Prod.mk.inj (Except.ok.inj h)
        refine .inr ⟨rest₂, by rw [readPairByte_eq_ok hbackslash], ?_⟩
        rw [readPairByte_eq_ok hletter, skipEscape_number, hsecond]
        rfl
      case isFalse => cases h
    case isFalse =>
      cases h
      exact .inl rfl

theorem skipEscape_of_readEscaped {c : Char} (h : readEscaped bytes = .ok (c, rest)) :
    skipEscape bytes = .ok rest ∨
      ∃ mid, skipEscape bytes = .ok (backslashByte :: mid) ∧ skipEscape mid = .ok rest := by
  cases bytes with
  | nil => cases h
  | cons b more =>
    rw [readEscaped] at h
    split at h
    case isTrue hb =>
      rw [beq_iff_eq.mp hb]
      exact skipEscape_of_readNumbered h
    case isFalse hb =>
      split at h
      case h_1 c' hsimple =>
        cases h
        left
        simp [skipEscape, hb, hsimple]
      case h_2 => cases h

theorem skipStringWith_backslash {mid : Bytes} (h : skipEscape bytes = .ok mid) (fuel : Nat) :
    skipStringWith (fuel + 1) (backslashByte :: bytes) = skipStringWith fuel mid := by
  have hquote : backslashByte ≠ quoteByte := by decide
  simp [skipStringWith, hquote, h]

/-- Behind a piece of a string, what is left is passed over as before; an escape may take two steps. -/
theorem skipStringWith_of_readPiece {piece : Bytes} {fuel : Nat}
    (h : readPiece bytes = .ok (some piece, rest)) (hfuel : bytes.length < fuel) :
    ∃ fuel', rest.length < fuel' ∧ skipStringWith fuel bytes = skipStringWith fuel' rest := by
  obtain ⟨fuel, rfl⟩ := Nat.exists_eq_succ_of_ne_zero (Nat.ne_zero_of_lt hfuel)
  cases bytes with
  | nil => cases h
  | cons b more =>
    rw [List.length_cons, Nat.succ_lt_succ_iff] at hfuel
    rw [readPiece] at h
    split at h
    case isTrue => cases h
    case isFalse hquote =>
      split at h
      case isTrue hbackslash =>
        obtain ⟨⟨c, rest⟩, hescape, h⟩ := bind_eq_ok.mp h
        cases h
        rw [beq_iff_eq.mp hbackslash]
        rcases skipEscape_of_readEscaped hescape with hskip | ⟨mid, hskip, hmid⟩
        · have := length_of_skipEscape hskip
          exact ⟨fuel, by omega, skipStringWith_backslash hskip fuel⟩
        · -- two halves
          have hlength := length_of_skipEscape hskip
          have hlength' := length_of_skipEscape hmid
          rw [List.length_cons] at hlength
          obtain ⟨fuel, rfl⟩ := Nat.exists_eq_succ_of_ne_zero (Nat.ne_zero_of_lt hfuel)
          refine ⟨fuel, by omega, ?_⟩
          rw [skipStringWith_backslash hskip, skipStringWith_backslash hmid]
      case isFalse hbackslash =>
        split at h
        case isTrue => cases h
        case isFalse hcontrol =>
          cases h
          refine ⟨fuel, hfuel, ?_⟩
          simp [skipStringWith, hquote, hbackslash, hcontrol]

theorem skipStringWith_of_readPieces {fuel fuel' : Nat} {pieces : List Bytes} {content : Bytes}
    (h : readPieces fuel pieces bytes = .ok (content, rest)) (hfuel : bytes.length < fuel') :
    skipStringWith fuel' bytes = .ok rest := by
  induction fuel generalizing fuel' pieces bytes with
  | zero => cases h
  | succ fuel ih =>
    rw [readPieces] at h
    split at h
    case h_1 => cases h
    case h_2 hpiece =>
      cases h
      obtain rfl := eq_of_readPiece_none hpiece
      obtain ⟨fuel', rfl⟩ := Nat.exists_eq_succ_of_ne_zero (Nat.ne_zero_of_lt hfuel)
      rfl
    case h_3 hpiece =>
      obtain ⟨fuel'', hfuel'', hskip⟩ := skipStringWith_of_readPiece hpiece hfuel
      rw [hskip]
      exact ih h hfuel''

/-- **A string that is read** is passed over. -/
theorem skipString_of_readString {s : String} (h : readString bytes = .ok (s, rest)) :
    skipString bytes = .ok rest := by
  obtain ⟨⟨content, rest'⟩, hpieces, h⟩ := bind_eq_ok.mp h
  simp only at h
  split at h
  case h_1 =>
    cases h
    exact skipStringWith_of_readPieces hpieces (Nat.lt_succ_self _)
  case h_2 => cases h

theorem length_of_skipStringWith {fuel : Nat} (h : skipStringWith fuel bytes = .ok rest) :
    rest.length < bytes.length := by
  induction fuel generalizing bytes with
  | zero => cases h
  | succ fuel ih =>
    cases bytes with
    | nil => cases h
    | cons b more =>
      rw [List.length_cons]
      rw [skipStringWith] at h
      split at h
      case isTrue =>
        cases h
        exact Nat.lt_succ_self _
      case isFalse =>
        split at h
        case isTrue =>
          split at h
          case h_1 => cases h
          case h_2 hescape =>
            have := length_of_skipEscape hescape
            have := ih h
            omega
        case isFalse =>
          split at h
          case isTrue => cases h
          case isFalse => exact Nat.lt_succ_of_lt (ih h)

/-! ### Numbers -/

theorem eq_of_finishFloat {negative : Bool} {digits : Nat} {exponent : Int} {n : JsonNumber}
    (h : finishFloat negative digits exponent bytes = .ok (n, rest)) : rest = bytes := by
  rw [finishFloat] at h
  split at h
  case h_1 =>
    cases h
    rfl
  case h_2 => cases h

theorem eq_of_wholeNumber {negative : Bool} {digits out : Nat} {n : JsonNumber}
    (h : wholeNumber negative digits out bytes = .ok (n, rest)) : rest = bytes := by
  rw [wholeNumber] at h
  split at h
  case isTrue => exact eq_of_finishFloat h
  case isFalse =>
    split at h
    case isTrue =>
      cases h
      rfl
    case isFalse =>
      split at h
      case isTrue =>
        cases h
        rfl
      case isFalse => exact eq_of_finishFloat h

theorem dropWhile_isDigit_cons {b : UInt8} (h : isDigit b) (bytes : Bytes) :
    (b :: bytes).dropWhile isDigit = bytes.dropWhile isDigit :=
  List.dropWhile_cons_of_pos h

/-- The digits of an exponent are passed over, even if they stand for too great a number. -/
theorem skipExponent_of_readExponent {negative : Bool} {digits : Nat} {start : Int} {n : JsonNumber}
    (h : readExponent negative digits start bytes = .ok (n, rest)) : skipExponent bytes = .ok rest := by
  unfold readExponent at h
  rw [skipExponent]
  dsimp only at h
  generalize (splitSign bytes).1 = down at h
  cases hbehind : (splitSign bytes).2 with
  | nil =>
    rw [hbehind] at h
    cases h
  | cons b more =>
    rw [hbehind] at h
    dsimp only at h ⊢
    split at h
    case isTrue => cases h
    case isFalse hdigit =>
      have hdigit : isDigit b := by simpa using hdigit
      dsimp only [spanDigits] at h
      rw [dropWhile_isDigit_cons hdigit] at h
      rw [if_pos hdigit]
      -- an exponent that is too great either makes the number zero or is refused
      split at h
      case h_1 => rw [eq_of_finishFloat h]
      case h_2 =>
        split at h
        case isTrue => cases h
        case isFalse =>
          obtain ⟨-, rfl⟩ := Prod.mk.inj (Except.ok.inj h)
          rfl

theorem skipExponentIfAny_of_readAfterFraction {negative : Bool} {digits : Nat} {exponent : Int}
    {n : JsonNumber} (h : readAfterFraction negative digits exponent bytes = .ok (n, rest)) :
    skipExponentIfAny bytes = .ok rest := by
  cases bytes with
  | nil =>
    rw [eq_of_finishFloat h]
    rfl
  | cons b more =>
    rw [readAfterFraction] at h
    rw [skipExponentIfAny]
    split at h
    case isTrue hmark => rw [if_pos hmark, skipExponent_of_readExponent h]
    case isFalse hmark => rw [if_neg hmark, eq_of_finishFloat h]

theorem skipAfterWhole_of_readFraction {negative : Bool} {digits : Nat} {start : Int} {n : JsonNumber}
    (h : readFraction negative digits start bytes = .ok (n, rest)) :
    skipAfterWhole (pointByte :: bytes) = .ok rest := by
  unfold readFraction at h
  dsimp only [spanDigits] at h
  split at h
  case isTrue hempty =>
    split at h
    case h_1 => cases h
    case h_2 => cases h
  case isFalse hempty =>
    have hread := skipExponentIfAny_of_readAfterFraction h
    cases bytes with
    | nil => exact absurd rfl hempty
    | cons d more =>
      have hdigit : isDigit d := by
        refine Decidable.byContradiction fun hdigit => hempty ?_
        rw [List.takeWhile_cons_of_neg hdigit]
        rfl
      unfold skipAfterWhole
      dsimp only
      rw [if_pos (beq_self_eq_true _), if_pos hdigit, hread]

theorem skipAfterWhole_of_readAfterWhole {negative : Bool} {digits out : Nat} {n : JsonNumber}
    (h : readAfterWhole negative digits out bytes = .ok (n, rest)) : skipAfterWhole bytes = .ok rest := by
  cases bytes with
  | nil =>
    rw [eq_of_wholeNumber h]
    rfl
  | cons b more =>
    rw [readAfterWhole] at h
    split at h
    case isTrue hpoint =>
      rw [beq_iff_eq.mp hpoint]
      exact skipAfterWhole_of_readFraction h
    case isFalse hpoint =>
      unfold skipAfterWhole
      dsimp only
      rw [if_neg hpoint, skipExponentIfAny]
      split at h
      case isTrue hmark => rw [if_pos hmark, skipExponent_of_readExponent h]
      case isFalse hmark => rw [if_neg hmark, eq_of_wholeNumber h]

/-- **A number that is read** is passed over. -/
theorem skipNumber_of_readNumber {negative : Bool} {n : JsonNumber}
    (h : readNumber negative bytes = .ok (n, rest)) : skipNumber bytes = .ok rest := by
  cases bytes with
  | nil => cases h
  | cons b more =>
    unfold readNumber at h
    unfold skipNumber
    dsimp only at h ⊢
    split at h
    case isTrue => cases h
    case isFalse hdigit =>
      rw [if_neg hdigit]
      split at h
      case isTrue hzero =>
        rw [if_pos hzero]
        cases more with
        | nil => exact skipAfterWhole_of_readAfterWhole h
        | cons d more =>
          dsimp only at h ⊢
          split at h
          case isTrue => cases h
          case isFalse hsecond => rw [if_neg hsecond, skipAfterWhole_of_readAfterWhole h]
      case isFalse hzero =>
        have hdigit : isDigit b := by simpa using hdigit
        rw [if_neg hzero]
        dsimp only [spanDigits] at h
        rw [dropWhile_isDigit_cons hdigit] at h
        exact skipAfterWhole_of_readAfterWhole h

theorem length_of_skipExponent (h : skipExponent bytes = .ok rest) : rest.length ≤ bytes.length := by
  have hsign : (splitSign bytes).2.length ≤ bytes.length := by
    cases bytes with
    | nil => exact Nat.le_refl _
    | cons b more =>
      rw [splitSign]
      split
      case isTrue => exact Nat.le_succ _
      case isFalse =>
        split
        case isTrue => exact Nat.le_succ _
        case isFalse => exact Nat.le_refl _
  rw [skipExponent] at h
  cases hbehind : (splitSign bytes).2 with
  | nil =>
    rw [hbehind] at h
    cases h
  | cons b more =>
    rw [hbehind] at h hsign
    dsimp only at h
    split at h
    case isTrue =>
      cases h
      exact Nat.le_trans (length_dropWhile_le _ _) (Nat.le_of_succ_le hsign)
    case isFalse => cases h

theorem length_of_skipExponentIfAny (h : skipExponentIfAny bytes = .ok rest) :
    rest.length ≤ bytes.length := by
  cases bytes with
  | nil =>
    cases h
    exact Nat.le_refl _
  | cons b more =>
    rw [skipExponentIfAny] at h
    split at h
    case isTrue => exact Nat.le_succ_of_le (length_of_skipExponent h)
    case isFalse =>
      cases h
      exact Nat.le_refl _

theorem length_of_skipAfterWhole (h : skipAfterWhole bytes = .ok rest) : rest.length ≤ bytes.length := by
  cases bytes with
  | nil =>
    cases h
    exact Nat.le_refl _
  | cons b more =>
    unfold skipAfterWhole at h
    dsimp only at h
    split at h
    case isTrue =>
      cases more with
      | nil => cases h
      | cons d tail =>
        dsimp only at h
        split at h
        case isTrue =>
          have hle := length_dropWhile_le isDigit (d :: tail)
          have := length_of_skipExponentIfAny h
          rw [List.length_cons]
          omega
        case isFalse => cases h
    case isFalse => exact length_of_skipExponentIfAny h

theorem length_of_skipNumber (h : skipNumber bytes = .ok rest) : rest.length < bytes.length := by
  cases bytes with
  | nil => cases h
  | cons b more =>
    unfold skipNumber at h
    dsimp only at h
    rw [List.length_cons, Nat.lt_succ_iff]
    split at h
    case isTrue => cases h
    case isFalse =>
      split at h
      case isTrue =>
        cases more with
        | nil =>
          cases h
          exact Nat.le_refl _
        | cons d tail =>
          dsimp only at h
          split at h
          case isTrue => cases h
          case isFalse => exact length_of_skipAfterWhole h
      case isFalse => exact Nat.le_trans (length_of_skipAfterWhole h) (length_dropWhile_le _ _)

/-! ### Values that are neither lists nor objects -/

theorem length_of_readWord {word : Bytes} (h : readWord word bytes = .ok rest) :
    rest.length ≤ bytes.length := by
  induction word generalizing bytes with
  | nil =>
    cases h
    exact Nat.le_refl _
  | cons w word ih =>
    cases bytes with
    | nil => cases h
    | cons b more =>
      rw [readWord] at h
      split at h
      case isTrue => exact Nat.le_succ_of_le (ih h)
      case isFalse => cases h

/-- **A value that is read**, and is neither a list nor an object, is passed over. -/
theorem skipScalar?_of_readScalar? {v : Json} (h : readScalar? b bytes = some (.ok (v, rest))) :
    skipScalar? b bytes = some (.ok rest) := by
  rw [readScalar?] at h
  rw [skipScalar?]
  split at h
  case isTrue hquote =>
    obtain ⟨⟨s, rest⟩, hstring, h⟩ := bind_eq_ok.mp (Option.some.inj h)
    cases h
    rw [if_pos hquote, skipString_of_readString hstring]
  case isFalse hquote =>
    rw [if_neg hquote]
    split at h
    case isTrue hminus =>
      obtain ⟨⟨n, rest⟩, hnumber, h⟩ := bind_eq_ok.mp (Option.some.inj h)
      cases h
      rw [if_pos hminus, skipNumber_of_readNumber hnumber]
    case isFalse hminus =>
      rw [if_neg hminus]
      split at h
      case isTrue hdigit =>
        obtain ⟨⟨n, rest⟩, hnumber, h⟩ := bind_eq_ok.mp (Option.some.inj h)
        cases h
        rw [if_pos hdigit, skipNumber_of_readNumber hnumber]
      case isFalse hdigit =>
        obtain ⟨⟨word, value⟩, hliteral, h⟩ := Option.map_eq_some_iff.mp h
        obtain ⟨rest', hword, h⟩ := bind_eq_ok.mp h
        cases h
        rw [if_neg hdigit, hliteral]
        exact congrArg some hword

theorem length_of_skipScalar? (h : skipScalar? b bytes = some (.ok rest)) : rest.length ≤ bytes.length := by
  rw [skipScalar?] at h
  split at h
  case isTrue => exact Nat.le_of_lt (length_of_skipStringWith (Option.some.inj h))
  case isFalse =>
    split at h
    case isTrue => exact Nat.le_of_lt (length_of_skipNumber (Option.some.inj h))
    case isFalse =>
      split at h
      case isTrue => exact Nat.le_of_lt_succ (length_of_skipNumber (Option.some.inj h))
      case isFalse =>
        obtain ⟨⟨word, value⟩, -, h⟩ := Option.map_eq_some_iff.mp h
        exact length_of_readWord h

end ReplyRules.Json
