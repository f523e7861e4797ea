/-!
Instants, to the nanosecond.  They are counted from the beginning of 1970, and lie between the years
-262143 and 262142.  Stored instants are counted in milliseconds.
-/

namespace ReplyRules

/-- The nanoseconds of a millisecond. -/
def nanosPerMilli : Int := 1000000

/-- The first instant, in milliseconds. -/
def minMillis : Int := -8334601228800000

/-- The last instant, in milliseconds. -/
def maxMillis : Int := 8210266876799999

/-- An instant. -/
structure Instant where
  nanos : Int
  first_le : minMillis * nanosPerMilli ≤ nanos
  lt_end : nanos < (maxMillis + 1) * nanosPerMilli
  deriving DecidableEq, Repr

namespace Instant

/-- The beginning of 1970. -/
def epoch : Instant := ⟨0, by decide, by decide⟩

instance : Inhabited Instant := ⟨epoch⟩

/-- The instant at which a millisecond begins. -/
def ofMillis? (ms : Int) : Option Instant :=
  if h : minMillis ≤ ms ∧ ms ≤ maxMillis then
    some ⟨ms * nanosPerMilli,
      by have := h.1; simp only [nanosPerMilli]; omega,
      by have := h.2; simp only [nanosPerMilli]; omega⟩
  else none

/-- The millisecond an instant lies in. -/
def millis (t : Instant) : Int := t.nanos / nanosPerMilli

/-- The millisecond of an instant is one that can be stored. -/
theorem millis_bounds (t : Instant) : minMillis ≤ t.millis ∧ t.millis ≤ maxMillis := by
  have h₁ := t.first_le
  have h₂ := t.lt_end
  simp only [millis, nanosPerMilli] at *
  omega

/-- The instant at which the millisecond of another one begins. -/
def floorMillis (t : Instant) : Instant :=
  ⟨t.millis * nanosPerMilli,
    by have := t.millis_bounds.1; simp only [nanosPerMilli]; omega,
    by have := t.millis_bounds.2; simp only [nanosPerMilli]; omega⟩

/-- Reading a stored millisecond gives the instant without what is smaller. -/
theorem ofMillis?_millis (t : Instant) : ofMillis? t.millis = some t.floorMillis :=
  dif_pos t.millis_bounds

/-! ### Dates -/

/-- The nanoseconds of a day. -/
def nanosPerDay : Int := 86400 * 1000 * nanosPerMilli

/-- A date of the Gregorian calendar. -/
structure Date where
  year : Int
  month : Int
  day : Int
  deriving DecidableEq, Repr

/-- The date that lies a number of days behind the first of January 1970.  Years are counted from
March, so that a leap day is the last one of its year, and in cycles of 400 years. -/
def dateOfDays (days : Int) : Date :=
  let shifted := days + 719468
  let cycle := shifted / 146097
  let dayOfCycle := shifted % 146097
  let yearOfCycle :=
    (dayOfCycle - dayOfCycle / 1460 + dayOfCycle / 36524 - dayOfCycle / 146096) / 365
  let dayOfYear := dayOfCycle - (365 * yearOfCycle + yearOfCycle / 4 - yearOfCycle / 100)
  let monthFromMarch := (5 * dayOfYear + 2) / 153
  let month := if monthFromMarch < 10 then monthFromMarch + 3 else monthFromMarch - 9
  { year := yearOfCycle + cycle * 400 + (if month ≤ 2 then 1 else 0)
    month := month
    day := dayOfYear - (153 * monthFromMarch + 2) / 5 + 1 }

/-- A number with zeros in front of it up to a width. -/
def padded (width n : Nat) : String :=
  let digits := toString n
  String.ofList (List.replicate (width - digits.length) '0') ++ digits

/-- The text of a year: four digits, or a sign and at least four digits. -/
def yearText (year : Int) : String :=
  if 0 ≤ year && year ≤ 9999 then padded 4 year.toNat
  else (if year < 0 then "-" else "+") ++ padded 4 year.natAbs

/-- The text of the part of a second: nothing, or three, six or nine digits. -/
def fractionText (nanos : Nat) : String :=
  if nanos == 0 then ""
  else if nanos % 1000000 == 0 then "." ++ padded 3 (nanos / 1000000)
  else if nanos % 1000 == 0 then "." ++ padded 6 (nanos / 1000)
  else "." ++ padded 9 nanos

/-- The text of an instant: date, time and the offset from universal time, which is none. -/
def toText (t : Instant) : String :=
  let date := dateOfDays (t.nanos / nanosPerDay)
  let rest := (t.nanos % nanosPerDay).toNat
  let seconds := rest / 1000000000
  yearText date.year ++ "-" ++ padded 2 date.month.toNat ++ "-" ++ padded 2 date.day.toNat ++ "T" ++
    padded 2 (seconds / 3600) ++ ":" ++ padded 2 (seconds / 60 % 60) ++ ":" ++
    padded 2 (seconds % 60) ++ fractionText (rest % 1000000000) ++ "+00:00"

end Instant

end ReplyRules
