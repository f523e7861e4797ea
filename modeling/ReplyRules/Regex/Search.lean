import ReplyRules.Regex.Expr

/-!
Searching a text for a match.  A set of places in the text is a number whose bit `i` stands for place
`i`; an expression takes the set of places where matches may begin to the set of those where they end.
Every part of an expression moves all places at once, so no pattern makes the search go back.
-/

namespace ReplyRules.Regex

open Unicode (CodeSet)

/-! ### Expressions for one text -/

/-- An expression over the places of one text: a class has become the set of the places where one of its
characters stands, a condition the set of those where it holds. -/
inductive Track where
  | empty
  | chars (places : Nat)
  | look (places : Nat)
  | seq (a b : Track)
  | alt (a b : Track)
  | repeats (min : Nat) (max : Option Nat) (sub : Track)

/-- The places in front of the characters that have the property `p`. -/
def placesOf (p : Char → Bool) : List Char → Nat
  | [] => 0
  | c :: cs => (if p c then 1 else 0) + 2 * placesOf p cs

/-- The places between whose neighbours `p` holds; `before` is the character before the first. -/
def placesBetween (p : Option Char → Option Char → Bool) (before : Option Char) : List Char → Nat
  | [] => if p before none then 1 else 0
  | c :: cs => (if p before (some c) then 1 else 0) + 2 * placesBetween p (some c) cs

/-- The classes of an expression. -/
def Expr.classes : Expr → List CodeSet
  | .empty => []
  | .chars set => [set]
  | .look _ => []
  | .capture e => e.classes
  | .seq a b => a.classes ++ b.classes
  | .alt a b => a.classes ++ b.classes
  | .repeats _ _ e => e.classes

/-- Classes with the places of a text where one of their characters stands. -/
abbrev PlaceTable := List (CodeSet × Nat)

/-- The table for some classes, each of which is looked for in the text only once. -/
def placeTable (text : List Char) (sets : List CodeSet) : PlaceTable :=
  sets.eraseDups.map fun set => (set, placesOf set.hasChar text)

/-- The places of a class, from the table if it is there. -/
def PlaceTable.places (table : PlaceTable) (text : List Char) (set : CodeSet) : Nat :=
  (table.lookup set).getD (placesOf set.hasChar text)

/-- The expression over the places of a text. -/
def Expr.trackWith (table : PlaceTable) (text : List Char) : Expr → Track
  | .empty => .empty
  | .chars set => .chars (table.places text set)
  | .look l => .look (placesBetween l.holds none text)
  | .capture e => e.trackWith table text
  | .seq a b => .seq (a.trackWith table text) (b.trackWith table text)
  | .alt a b => .alt (a.trackWith table text) (b.trackWith table text)
  | .repeats min max e => .repeats min max (e.trackWith table text)

/-- The expression over the places of a text. -/
def Expr.track (text : List Char) (e : Expr) : Track := e.trackWith (placeTable text e.classes) text

/-! ### Moving places -/

/-- The members of `s` that are not in `t`. -/
def without (s t : Nat) : Nat := s ^^^ (s &&& t)

/-- The places reached by exactly `n` moves.  Once a move changes nothing, no later one does. -/
def moveTimes (move : Nat → Nat) : Nat → Nat → Nat
  | 0, s => s
  | n + 1, s =>
    let t := move s
    if t == s then s else moveTimes move n t

/-- The places reached by at most `n` moves, where `seen` are those reached already and `fresh` those
from which no move has been made. -/
def moveUpTo (move : Nat → Nat) : Nat → Nat → Nat → Nat
  | 0, seen, _ => seen
  | n + 1, seen, fresh =>
    if fresh == 0 then seen
    else
      let fresh := without (move fresh) seen
      moveUpTo move n (seen ||| fresh) fresh

/-- The places where matches end that begin at one of the places `s`, in a text with `length`
characters.  A place is reached first within as many moves as there are places, and from no place more
than one move is made beyond the least number. -/
def Track.ends (length : Nat) : Track → Nat → Nat
  | .empty, s => s
  | .chars places, s => (s &&& places) <<< 1
  | .look places, s => s &&& places
  | .seq a b, s => b.ends length (a.ends length s)
  | .alt a b, s => a.ends length s ||| b.ends length s
  | .repeats 0 max e, s => moveUpTo (e.ends length) (max.getD (length + 1)) s s
  | .repeats (min + 1) max e, s =>
    let before := moveTimes (e.ends length) min s
    let least := e.ends length before
    moveUpTo (e.ends length) ((max.map (· - (min + 1))).getD (length + 1)) least (without least before)

/-- All places of a text with `length` characters. -/
def allPlaces (length : Nat) : Nat := Nat.pow 2 (length + 1) - 1

/-- Whether the expression matches some stretch of the text. -/
def Expr.isIn (e : Expr) (text : List Char) : Bool :=
  (e.track text).ends text.length (allPlaces text.length) != 0

end ReplyRules.Regex
