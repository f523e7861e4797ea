import ReplyRules.Json.Scan

/-!
Reading the numbers of JSON texts.  Whole numbers that fit into 64 bits keep their value; all others
become floating-point numbers: their digits, as many as fit into 64 bits, times or divided by a power
of ten.
-/

namespace ReplyRules.Json

open Number (Binary64)

/-- The greatest whole number of 64 bits. -/
def maxNatural : Nat := Nat.pow 2 64 - 1

/-- The greatest exponent that is read digit by digit. -/
def maxDecimalExponent : Nat := Nat.pow 2 31 - 1

/-- Appends digits to a number as long as it fits into 64 bits; gives the number and how many digits are
left out. -/
def absorbDigits (n : Nat) : Bytes → Nat × Nat
  | [] => (n, 0)
  | d :: ds =>
    if n * 10 + digitValue d ≤ maxNatural then absorbDigits (n * 10 + digitValue d) ds
    else (n, ds.length + 1)

/-- Reads the digits that are next. -/
def spanDigits (bytes : Bytes) : Bytes × Bytes := (bytes.takeWhile isDigit, bytes.dropWhile isDigit)

/-- The power of ten nearest to `10 ^ k`. -/
def powerOfTen (k : Nat) : Binary64 := (Binary64.ofNat (Nat.pow 10 k)).getD default

/-- A number divided by `10 ^ k`, by at most `10 ^ 308` at a time. -/
def scaleDown : Nat → Binary64 → Nat → Option Binary64
  | 0, x, _ => some x
  | fuel + 1, x, k =>
    if x.isZero then some x
    else if k ≤ 308 then x.div (powerOfTen k)
    else (x.div (powerOfTen 308)).bind fun y => scaleDown fuel y (k - 308)

/-- The number with the given digits and exponent; none if it is too great. -/
def floatOf (digits : Nat) (exponent : Int) : Option Binary64 :=
  (Binary64.ofNat digits).bind fun x =>
    if 0 ≤ exponent then
      if exponent ≤ 308 then x.mul (powerOfTen exponent.toNat)
      else if x.isZero then some x else none
    else scaleDown (exponent.natAbs / 308 + 1) x exponent.natAbs

/-- A number whose digits and exponent have been read. -/
def finishFloat (negative : Bool) (digits : Nat) (exponent : Int) (rest : Bytes) : Except JsonError (JsonNumber × Bytes) :=
  match floatOf digits exponent with
  | some x => .ok (.float (x.withSign negative), rest)
  | none => failHere .numberOutOfRange rest

/-- The exponent the digits stand for; if it is too great, the digits behind the one that makes it so. -/
def exponentOf (n : Nat) : Bytes → Nat ⊕ Bytes
  | [] => .inl n
  | d :: ds =>
    if n * 10 + digitValue d ≤ maxDecimalExponent then exponentOf (n * 10 + digitValue d) ds else .inr ds

/-- Takes off the sign of an exponent, if there is one, and tells whether it is a minus. -/
def splitSign : Bytes → Bool × Bytes
  | [] => (false, [])
  | b :: rest =>
    if b == 0x2B then (false, rest) else if b == minusByte then (true, rest) else (false, b :: rest)

/-- The exponent, from behind its letter, and with it the end of the number. -/
def readExponent (negative : Bool) (digits : Nat) (start : Int) (bytes : Bytes) : Except JsonError (JsonNumber × Bytes) :=
  let (down, bytes) := splitSign bytes
  match bytes with
  | [] => failHere .endInValue []
  | b :: more =>
    if !isDigit b then failHere .invalidNumber more
    else
      let (ds, rest) := spanDigits (b :: more)
      match exponentOf 0 ds with
      | .inl e => finishFloat negative digits (if down then start - e else start + e) rest
      | .inr unread =>
        if digits != 0 && !down then failHere .numberOutOfRange (unread ++ rest)
        else .ok (.float (Binary64.withSign ⟨false, 0, Binary64.minExponent⟩ negative), rest)

/-- Whether the byte begins an exponent. -/
def isExponentMark (b : UInt8) : Bool := b == 0x65 || b == 0x45

/-- The end of a number with a fraction: an exponent or nothing. -/
def readAfterFraction (negative : Bool) (digits : Nat) (exponent : Int) : Bytes → Except JsonError (JsonNumber × Bytes)
  | [] => finishFloat negative digits exponent []
  | b :: rest =>
    if isExponentMark b then readExponent negative digits exponent rest
    else finishFloat negative digits exponent (b :: rest)

/-- The fraction, from behind the point. -/
def readFraction (negative : Bool) (digits : Nat) (start : Int) (bytes : Bytes) : Except JsonError (JsonNumber × Bytes) :=
  let (ds, rest) := spanDigits bytes
  if ds.isEmpty then
    match rest with
    | [] => failHere .endInValue []
    | rest => failAt .invalidNumber rest
  else
    let (digits, out) := absorbDigits digits ds
    readAfterFraction negative digits (start - ((ds.length - out : Nat) : Int)) rest

/-- A whole number, if it fits, or a floating-point number. -/
def wholeNumber (negative : Bool) (digits out : Nat) (rest : Bytes) : Except JsonError (JsonNumber × Bytes) :=
  if out != 0 then finishFloat negative digits out rest
  else if !negative then .ok (.natural digits, rest)
  else if digits != 0 && digits ≤ Nat.pow 2 63 then .ok (.negative digits, rest)
  else finishFloat true digits 0 rest

/-- What follows the digits before the point. -/
def readAfterWhole (negative : Bool) (digits out : Nat) : Bytes → Except JsonError (JsonNumber × Bytes)
  | [] => wholeNumber negative digits out []
  | b :: rest =>
    if b == pointByte then readFraction negative digits out rest
    else if isExponentMark b then readExponent negative digits out rest
    else wholeNumber negative digits out (b :: rest)

/-- A number, from behind its sign.  A zero at its head stands alone. -/
def readNumber (negative : Bool) (bytes : Bytes) : Except JsonError (JsonNumber × Bytes) :=
  match bytes with
  | [] => failHere .endInValue []
  | b :: more =>
    if !isDigit b then failHere .invalidNumber more
    else if b == 0x30 then
      match more with
      | d :: _ => if isDigit d then failAt .invalidNumber more else readAfterWhole negative 0 0 more
      | [] => readAfterWhole negative 0 0 []
    else
      let (ds, rest) := spanDigits (b :: more)
      let (digits, out) := absorbDigits 0 ds
      readAfterWhole negative digits out rest

end ReplyRules.Json
