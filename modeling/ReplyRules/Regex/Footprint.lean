import ReplyRules.Regex.Expr

/-!
The size of the program that an expression is compiled to.  The program is a graph of states over bytes
with one edge for each range of bytes; programs beyond a limit are refused.  It is built twice, once for
reading texts forwards and once for reading them backwards, and neither may be too big.
-/

namespace ReplyRules.Regex

open Unicode (CodeSet CodeRange)

/-- The greatest size of a program, in bytes. -/
def sizeLimit : Nat := 10485760

/-- The size of a state. -/
def stateSize : Nat := 32

/-- The size of an edge for a range of bytes, in a state that has several. -/
def edgeSize : Nat := 8

/-- The size of an edge that reads nothing. -/
def branchSize : Nat := 4

/-! ### Classes as ranges of bytes -/

/-- The bytes from `lo` to `hi`. -/
structure ByteRange where
  lo : Nat
  hi : Nat
  deriving DecidableEq, Repr

/-- The bytes of a code point in UTF-8. -/
def utf8Bytes (n : Nat) : List Nat :=
  if n < 0x80 then [n]
  else if n < 0x800 then [0xC0 + n / 0x40, 0x80 + n % 0x40]
  else if n < 0x10000 then [0xE0 + n / 0x1000, 0x80 + n / 0x40 % 0x40, 0x80 + n % 0x40]
  else [0xF0 + n / 0x40000, 0x80 + n / 0x1000 % 0x40, 0x80 + n / 0x40 % 0x40, 0x80 + n % 0x40]

/-- A place at which the range from `lo` to `hi` has to be split so that its parts can be written as
one range for each byte: the first code point of the second part. -/
def splitPoint? (lo hi : Nat) : Option Nat :=
  let bound? := [0x80, 0x800, 0x10000].find? fun b => lo < b && b ≤ hi
  match bound? with
  | some b => some b
  | none =>
    if hi < 0x80 then none
    else
      [0x40, 0x1000, 0x40000].findSome? fun block =>
        if lo / block == hi / block then none
        else if lo % block != 0 then some ((lo / block + 1) * block)
        else if hi % block != block - 1 then some (hi / block * block)
        else none

/-- The sequences of ranges of bytes for the code points from `lo` to `hi`, in at most `n` splits. -/
def byteSequencesFrom : Nat → Nat → Nat → List (List ByteRange)
  | 0, _, _ => []
  | n + 1, lo, hi =>
    if hi < lo then []
    else match splitPoint? lo hi with
      | some p => byteSequencesFrom n lo (p - 1) ++ byteSequencesFrom n p hi
      | none => [List.zipWith ByteRange.mk (utf8Bytes lo) (utf8Bytes hi)]

/-- The sequences of ranges of bytes for a set of code points; surrogates have none. -/
def byteSequences (s : CodeSet) : List (List ByteRange) :=
  s.ranges.flatMap fun r =>
    byteSequencesFrom 64 r.lo (min r.hi 0xD7FF) ++ byteSequencesFrom 64 (max r.lo 0xE000) r.hi

/-- The sequences grouped by their first range, without it. -/
def groupByFirst : List (List ByteRange) → List (ByteRange × List (List ByteRange))
  | [] => []
  | [] :: seqs => groupByFirst seqs
  | (r :: rest) :: seqs =>
    match groupByFirst seqs with
    | (q, rests) :: groups =>
      if q == r then (q, rest :: rests) :: groups else (r, [rest]) :: (q, rests) :: groups
    | [] => [(r, [rest])]

/-- The states of a class that have been built, by their edges. -/
abbrev StateTable := List (List (ByteRange × Nat))

/-- Builds the state that reads one of the sequences, sharing the states that are there already.  State
0 is the end.  The sequences have at most `n` ranges. -/
def buildStates : Nat → List (List ByteRange) → StateTable → Nat × StateTable
  | 0, _, table => (0, table)
  | n + 1, seqs, table =>
    let groups := groupByFirst seqs
    if groups.isEmpty then (0, table)
    else
      let (edges, table) := groups.foldl (fun (acc : List (ByteRange × Nat) × StateTable) g =>
        let (id, table) := buildStates n g.2 acc.2
        (acc.1 ++ [(g.1, id)], table)) ([], table)
      match table.idxOf? edges with
      | some k => (table.length - k, table)
      | none => (table.length + 1, edges :: table)

/-- The number of edges of the tree that the sequences make up when they share their beginnings. -/
def prefixEdges : Nat → List (List ByteRange) → Nat
  | 0, _ => 0
  | n + 1, seqs => ((groupByFirst seqs).map fun g => 1 + prefixEdges n g.2).foldr (· + ·) 0

/-- The size of the program for a class. -/
def classFootprint (backwards : Bool) (s : CodeSet) : Nat :=
  match s.ranges with
  | [] => stateSize
  | [⟨lo, hi⟩] =>
    if lo == hi then stateSize * (utf8Bytes lo).length
    else wide
  | _ => wide
where
  wide : Nat :=
    if s.isAscii then 2 * stateSize + edgeSize * s.ranges.length
    else
      let seqs := byteSequences s
      if backwards then
        2 * stateSize + branchSize * seqs.length + stateSize * prefixEdges 5 seqs
      else
        let table := (buildStates 5 seqs []).2
        stateSize + (table.map fun edges => stateSize + edgeSize * edges.length).foldr (· + ·) 0

/-! ### Expressions -/

/-- The size of the program for `n` copies of a program, one behind the other. -/
def copies (n size : Nat) : Nat := if n == 0 then stateSize else n * size

/-- The size of the program for a repetition of a program of the given size; `nonEmpty` tells whether
what is repeated never matches the empty text. -/
def repeatFootprint (nonEmpty : Bool) (min : Nat) (max : Option Nat) (size : Nat) : Nat :=
  let fork := stateSize + 2 * branchSize
  match max with
  | none =>
    if min == 0 then
      if nonEmpty then size + fork else size + 2 * fork + stateSize
    else min * size + fork
  | some max =>
    if min == 0 && max == 1 then size + fork + stateSize
    else if min == max then copies min size
    else copies min size + stateSize + (max - min) * (size + fork)

/-- The size of the program for an expression.  `branch` tells whether the expression is a branch of a
choice: its own branches then join those of the choice. -/
def Expr.footprint (backwards branch : Bool) : Expr → Nat
  | .empty => stateSize + ownBranch
  | .chars set => classFootprint backwards set + ownBranch
  | .look _ => stateSize + ownBranch
  | .capture e =>
    e.footprint backwards false + (if backwards then 0 else 2 * stateSize) + ownBranch
  | .seq a b => a.footprint backwards false + b.footprint backwards false + ownBranch
  | .alt a b =>
    a.footprint backwards true + b.footprint backwards true +
      (if branch then 0 else 2 * stateSize)
  | .repeats min max e =>
    repeatFootprint (e.minLength.any (0 < ·)) min max (e.footprint backwards false) + ownBranch
where
  ownBranch : Nat := if branch then branchSize else 0

/-- The size of the states around the program of every pattern. -/
def frameFootprint : Nat := 208

/-- Whether the programs for an expression are within the limit. -/
def Expr.fits (e : Expr) : Bool :=
  e.footprint false false + frameFootprint ≤ sizeLimit &&
    e.footprint true false + frameFootprint ≤ sizeLimit

end ReplyRules.Regex
