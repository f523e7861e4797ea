/-!
Sets of code points, kept as lists of ranges.

A set is *in order* when its ranges increase and no two of them touch; every operation here gives back
such a list, so two sets with the same members have the same ranges.  Membership does not need the
order: a code point is in the set when one of the ranges has it.
-/

namespace ReplyRules.Unicode

/-- The code points from `lo` to `hi`, both included. -/
structure CodeRange where
  lo : Nat
  hi : Nat
  deriving DecidableEq, Repr, Inhabited

/-- Whether the range has the code point. -/
def CodeRange.has (r : CodeRange) (n : Nat) : Bool := r.lo ≤ n && n ≤ r.hi

/-- The last code point. -/
def lastCodePoint : Nat := 0x10FFFF

/-- A set of code points: those that one of its ranges has. -/
structure CodeSet where
  ranges : List CodeRange
  deriving DecidableEq, Repr, Inhabited

namespace CodeSet

/-- Whether the set has the code point. -/
def has (s : CodeSet) (n : Nat) : Bool := s.ranges.any (·.has n)

/-- Whether the set has the character. -/
def hasChar (s : CodeSet) (c : Char) : Bool := s.has c.toNat

/-- The set without members. -/
def empty : CodeSet := ⟨[]⟩

/-- The set of all code points. -/
def full : CodeSet := ⟨[⟨0, lastCodePoint⟩]⟩

/-- The set of the code points from `lo` to `hi`. -/
def ofRange (lo hi : Nat) : CodeSet := ⟨[⟨lo, hi⟩]⟩

/-- The set of one code point. -/
def single (n : Nat) : CodeSet := ofRange n n

/-- Whether no code point is in the set. -/
def isEmpty (s : CodeSet) : Bool := s.ranges.isEmpty

/-- Whether every member is below 128. -/
def isAscii (s : CodeSet) : Bool := s.ranges.all (·.hi ≤ 0x7F)

/-! ### Putting ranges in order -/

/-- Joins the range `r`, whose start is lowest, with those of the sorted list `rs` that it meets. -/
def absorb (r : CodeRange) : List CodeRange → List CodeRange
  | [] => [r]
  | q :: rs => if q.lo ≤ r.hi + 1 then absorb ⟨r.lo, max r.hi q.hi⟩ rs else r :: absorb q rs

/-- The set of the code points that one of the given ranges has, put in order. -/
def ofRanges (rs : List CodeRange) : CodeSet :=
  match rs.mergeSort (fun a b => a.lo ≤ b.lo) with
  | [] => empty
  | r :: sorted => ⟨absorb r sorted⟩

/-! ### Operations -/

/-- The members of either set. -/
def union (s t : CodeSet) : CodeSet := ofRanges (s.ranges ++ t.ranges)

/-- The members of any of the sets. -/
def unions (ss : List CodeSet) : CodeSet := ofRanges (ss.flatMap (·.ranges))

/-- The code points from `start` on that no range of the ordered list has. -/
def gaps (start : Nat) : List CodeRange → List CodeRange
  | [] => if start ≤ lastCodePoint then [⟨start, lastCodePoint⟩] else []
  | r :: rs =>
    if start < r.lo then ⟨start, r.lo - 1⟩ :: gaps (r.hi + 1) rs else gaps (r.hi + 1) rs

/-- The code points that are not in the set. -/
def compl (s : CodeSet) : CodeSet := ⟨gaps 0 (ofRanges s.ranges).ranges⟩

/-- The members of both sets. -/
def inter (s t : CodeSet) : CodeSet := (s.compl.union t.compl).compl

/-- The members of the first set that are not in the second. -/
def diff (s t : CodeSet) : CodeSet := s.inter t.compl

/-- The members of exactly one of the sets. -/
def symmDiff (s t : CodeSet) : CodeSet := (s.diff t).union (t.diff s)

/-! ### Written form -/

/-- The value of a hexadecimal digit in capitals; other characters count as zero. -/
def hexValue (c : Char) : Nat :=
  if c.isDigit then c.toNat - '0'.toNat
  else if 'A' ≤ c ∧ c ≤ 'F' then c.toNat - 'A'.toNat + 10
  else 0

/-- Reads ranges separated by blanks, each one code point or two with a hyphen between them, in
hexadecimal.  `n` is the number read so far and `lo` the start of the range, once known. -/
def readRanges : List Char → Nat → Option Nat → List CodeRange
  | [], n, lo => [⟨lo.getD n, n⟩]
  | ' ' :: cs, n, lo => ⟨lo.getD n, n⟩ :: readRanges cs 0 none
  | '-' :: cs, n, _ => readRanges cs 0 (some n)
  | c :: cs, n, lo => readRanges cs (16 * n + hexValue c) lo

/-- The set written on the given lines, whose ranges stand in order. -/
def ofLines (lines : List String) : CodeSet :=
  ⟨lines.flatMap fun line => readRanges line.toList 0 none⟩

end CodeSet

end ReplyRules.Unicode
