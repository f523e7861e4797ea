import ReplyRules.Toml.Basic
import ReplyRules.Toml.Scan

/-!
The numbers, dates and truth values of TOML texts.
-/

namespace ReplyRules.Toml

/-! ### Numbers -/

/-- Digits behind a digit, where single underscores may stand in between; they are left out. -/
def readMoreDigits (isOf : Char → Bool) : List Char → List Char × List Char
  | '_' :: c :: cs =>
    if isOf c then
      let (ds, rest) := readMoreDigits isOf cs
      (c :: ds, rest)
    else ([], '_' :: c :: cs)
  | c :: cs =>
    if isOf c then
      let (ds, rest) := readMoreDigits isOf cs
      (c :: ds, rest)
    else ([], c :: cs)
  | [] => ([], [])

/-- Digits, at least one. -/
def readDigits? (isOf : Char → Bool) : List Char → Option (List Char × List Char)
  | c :: cs =>
    if isOf c then
      let (ds, rest) := readMoreDigits isOf cs
      some (c :: ds, rest)
    else none
  | [] => none

/-- The number with the given digits. -/
def numberOf (base : Nat) (digits : List Char) : Nat :=
  digits.foldl (fun n c => n * base + (hexValue? c).getD 0) 0

/-- Whether a whole number fits into 64 bits. -/
def fits (i : Int) : Bool := -Int.pow 2 63 ≤ i && i < Int.pow 2 63

/-- A sign, if there is one, and whether it is minus. -/
def readSign : List Char → Bool × List Char
  | '-' :: cs => (true, cs)
  | '+' :: cs => (false, cs)
  | cs => (false, cs)

/-- The digits of a decimal number: a zero stands alone. -/
def readDecimal? : List Char → Option (List Char × List Char)
  | '0' :: cs => some (['0'], cs)
  | cs => readDigits? isDigit cs

/-- A whole number with a mark for its base. -/
def readBased? (base : Nat) (cs : List Char) : Option (Toml × List Char) := do
  let (ds, cs) ← readDigits? (fun c => (hexValue? c).any (· < base)) cs
  let n := numberOf base ds
  if fits n then return (.integer n, cs) else none

/-- A fraction, if there is one: its digits. -/
def readFraction? : List Char → Option (List Char × List Char)
  | '.' :: cs => readDigits? isDigit cs
  | cs => some ([], cs)

/-- An exponent, if there is one. -/
def readExponent? : List Char → Option (Option Int × List Char)
  | c :: cs =>
    if c == 'e' || c == 'E' then do
      let (down, cs) := readSign cs
      let (ds, cs) ← readDigits? isDigit cs
      let n : Int := numberOf 10 ds
      return (some (if down then -n else n), cs)
    else some (none, c :: cs)
  | [] => some (none, [])

/-- The least number that is beyond all floating-point numbers: half way from the greatest one to the
next power of two. -/
def floatLimit : Nat := (Nat.pow 2 54 - 1) * Nat.pow 2 970

/-- Whether the number with these digits and this exponent is beyond all floating-point numbers, which
have at most 309 digits before the point. -/
def isTooGreat (digits : List Char) (exponent : Int) : Bool :=
  let n := numberOf 10 digits
  let size := ((Nat.toDigits 10 n).length : Int) + exponent
  if n == 0 || size < 309 then false
  else if 309 < size then true
  else if 0 ≤ exponent then floatLimit ≤ n * Nat.pow 10 exponent.toNat
  else floatLimit * Nat.pow 10 exponent.natAbs ≤ n

/-- A decimal number, with or without a fraction and an exponent. -/
def readNumber? (cs : List Char) : Option (Toml × List Char) := do
  let (negative, rest) := readSign cs
  let (whole, rest) ← readDecimal? rest
  let (fraction, rest) ← readFraction? rest
  let (exponent, rest) ← readExponent? rest
  if fraction.isEmpty && exponent.isNone then
    let n : Int := numberOf 10 whole
    let i := if negative then -n else n
    if fits i then return (.integer i, rest) else none
  else if !negative && isTooGreat (whole ++ fraction) (exponent.getD 0 - fraction.length) then none
  else return (.float (String.ofList (cs.take (cs.length - rest.length))), rest)

/-- A number that is written as a word. -/
def readSpecial? (cs : List Char) : Option (Toml × List Char) :=
  let (negative, rest) := readSign cs
  let sign := if negative then "-" else ""
  match rest with
  | 'i' :: 'n' :: 'f' :: rest => some (.float (sign ++ "inf"), rest)
  | 'n' :: 'a' :: 'n' :: rest => some (.float (sign ++ "nan"), rest)
  | _ => none

/-! ### Dates and times -/

/-- A number of exactly `count` digits within bounds. -/
def readField? (count lo hi : Nat) (cs : List Char) : Option (Nat × List Char) :=
  let ds := cs.take count
  let n := numberOf 10 ds
  if ds.length == count && ds.all isDigit && lo ≤ n && n ≤ hi then some (n, cs.drop count) else none

/-- The number of days of a month. -/
def daysOfMonth (year month : Nat) : Nat :=
  if month == 2 then
    if year % 4 == 0 && (year % 100 != 0 || year % 400 == 0) then 29 else 28
  else if month == 4 || month == 6 || month == 9 || month == 11 then 30 else 31

/-- Passes over a date. -/
def skipDate? (cs : List Char) : Option (List Char) := do
  let (year, cs) ← readField? 4 0 9999 cs
  let (month, cs) ← readField? 2 1 12 (← skipWord? ['-'] cs)
  let (_, cs) ← readField? 2 1 (daysOfMonth year month) (← skipWord? ['-'] cs)
  return cs

/-- Passes over a time. -/
def skipTime? (cs : List Char) : Option (List Char) := do
  let (_, cs) ← readField? 2 0 23 cs
  let (_, cs) ← readField? 2 0 59 (← skipWord? [':'] cs)
  let (_, cs) ← readField? 2 0 60 (← skipWord? [':'] cs)
  match cs with
  | '.' :: d :: cs => if isDigit d then return cs.dropWhile isDigit else none
  | '.' :: [] => none
  | cs => return cs

/-- Passes over an offset from universal time. -/
def skipOffset? : List Char → Option (List Char)
  | c :: cs =>
    if c == 'Z' || c == 'z' then some cs
    else if c == '+' || c == '-' then do
      let (_, cs) ← readField? 2 0 23 cs
      let (_, cs) ← readField? 2 0 59 (← skipWord? [':'] cs)
      return cs
    else some (c :: cs)
  | [] => some []

/-- Passes over what may follow a date: a time with or without an offset. -/
def skipAfterDate? : List Char → Option (List Char)
  | c :: cs =>
    if c == 'T' || c == 't' || (c == ' ' && (readField? 2 0 23 cs).isSome) then do
      let cs ← skipTime? cs
      skipOffset? cs
    else some (c :: cs)
  | [] => some []

/-- Whether a date or a time stands here: four digits and a dash, or two and a colon. -/
def startsDateTime (cs : List Char) : Bool :=
  let count := (cs.takeWhile isDigit).length
  match cs.drop count with
  | '-' :: _ => count == 4
  | ':' :: _ => count == 2
  | _ => false

/-- A date, a time, or both. -/
def readDateTime? (cs : List Char) : Option (Toml × List Char) := do
  let rest ←
    match (cs.drop 2).head? with
    | some ':' => skipTime? cs
    | _ => do
      let rest ← skipDate? cs
      skipAfterDate? rest
  return (.dateTime (String.ofList (cs.take (cs.length - rest.length))), rest)

/-! ### All of them -/

/-- A number, a date or a truth value. -/
def readScalar? (cs : List Char) : Option (Toml × List Char) :=
  match cs with
  | '0' :: 'x' :: rest => readBased? 16 rest
  | '0' :: 'o' :: rest => readBased? 8 rest
  | '0' :: 'b' :: rest => readBased? 2 rest
  | 't' :: rest => (skipWord? "rue".toList rest).map fun rest => (.boolean true, rest)
  | 'f' :: rest => (skipWord? "alse".toList rest).map fun rest => (.boolean false, rest)
  | cs =>
    match readSpecial? cs with
    | some read => some read
    | none => if startsDateTime cs then readDateTime? cs else readNumber? cs

end ReplyRules.Toml
