import ReplyRules.Unicode.BinaryProperty

/-!
What regular expressions match.  An expression is built from classes of characters and conditions on
places by sequence, choice and repetition; which stretches of a text it matches is said by `Expr.Matches`.
-/

namespace ReplyRules.Regex

open Unicode (CodeSet wordSet)

/-! ### Conditions on places -/

/-- Conditions on the characters before and behind a place.  Those on words know the letters of every
script, or those of ASCII alone. -/
inductive Look where
  | textStart
  | textEnd
  | lineStart
  | lineEnd
  | lineStartCrlf
  | lineEndCrlf
  | wordBoundary (unicode : Bool)
  | notWordBoundary (unicode : Bool)
  | wordStart (unicode : Bool)
  | wordEnd (unicode : Bool)
  | wordStartHalf (unicode : Bool)
  | wordEndHalf (unicode : Bool)
  deriving DecidableEq, Repr

/-- Whether the character belongs to words. -/
def isWordChar (unicode : Bool) (c : Char) : Bool :=
  if c.toNat ≤ 0x7F then c.isAlphanum || c == '_' else unicode && wordSet.hasChar c

/-- Whether the condition holds between the given characters; `none` stands for an end of the text. -/
def Look.holds (l : Look) (before behind : Option Char) : Bool :=
  let isWord := fun (u : Bool) (c : Option Char) => c.any (isWordChar u)
  match l with
  | textStart => before.isNone
  | textEnd => behind.isNone
  | lineStart => before.all (· == '\n')
  | lineEnd => behind.all (· == '\n')
  | lineStartCrlf =>
    before.all fun c => c == '\n' || (c == '\r' && behind != some '\n')
  | lineEndCrlf =>
    behind.all fun c => c == '\r' || (c == '\n' && before != some '\r')
  | wordBoundary u => isWord u before != isWord u behind
  | notWordBoundary u => isWord u before == isWord u behind
  | wordStart u => !isWord u before && isWord u behind
  | wordEnd u => isWord u before && !isWord u behind
  | wordStartHalf u => !isWord u before
  | wordEndHalf u => !isWord u behind

/-! ### Expressions -/

/-- A regular expression.  `capture` marks a group, which matches what its inside does. -/
inductive Expr where
  | empty
  | chars (set : CodeSet)
  | look (l : Look)
  | capture (sub : Expr)
  | seq (a b : Expr)
  | alt (a b : Expr)
  | repeats (min : Nat) (max : Option Nat) (sub : Expr)
  deriving DecidableEq, Repr, Inhabited

namespace Expr

/-- The character at a place of a text. -/
def charBehind (text : List Char) (i : Nat) : Option Char := text[i]?

/-- The character before a place of a text. -/
def charBefore (text : List Char) (i : Nat) : Option Char :=
  match i with
  | 0 => none
  | i + 1 => text[i]?

mutual

/-- The expression matches the stretch of the text from place `i` to place `j`. -/
inductive Matches (text : List Char) : Expr → Nat → Nat → Prop
  | empty {i : Nat} : i ≤ text.length → Matches text .empty i i
  | chars {set : CodeSet} {c : Char} {i : Nat} :
      text[i]? = some c → set.hasChar c = true → Matches text (.chars set) i (i + 1)
  | look {l : Look} {i : Nat} : i ≤ text.length →
      l.holds (charBefore text i) (charBehind text i) = true → Matches text (.look l) i i
  | capture {e : Expr} {i j : Nat} : Matches text e i j → Matches text (.capture e) i j
  | seq {a b : Expr} {i j k : Nat} :
      Matches text a i j → Matches text b j k → Matches text (.seq a b) i k
  | altLeft {a b : Expr} {i j : Nat} : Matches text a i j → Matches text (.alt a b) i j
  | altRight {a b : Expr} {i j : Nat} : Matches text b i j → Matches text (.alt a b) i j
  | repeats {min n : Nat} {max : Option Nat} {e : Expr} {i j : Nat} :
      min ≤ n → max.all (n ≤ ·) = true → MatchesTimes text e n i j →
      Matches text (.repeats min max e) i j

/-- The expression matches `n` stretches of the text, one behind the other, from `i` to `j`. -/
inductive MatchesTimes (text : List Char) : Expr → Nat → Nat → Nat → Prop
  | zero {e : Expr} {i : Nat} : i ≤ text.length → MatchesTimes text e 0 i i
  | succ {e : Expr} {n i j k : Nat} :
      Matches text e i j → MatchesTimes text e n j k → MatchesTimes text e (n + 1) i k

end

/-! ### Lengths -/

/-- The number of bytes of a code point in UTF-8. -/
def utf8Length (n : Nat) : Nat :=
  if n < 0x80 then 1 else if n < 0x800 then 2 else if n < 0x10000 then 3 else 4

/-- The least number of bytes that a match has; none where nothing can match. -/
def minLength : Expr → Option Nat
  | empty => some 0
  | chars set => set.ranges.head?.map (utf8Length ·.lo)
  | look _ => some 0
  | capture e => e.minLength
  | seq a b => do return (← a.minLength) + (← b.minLength)
  | alt a b => do return min (← a.minLength) (← b.minLength)
  | repeats n _ e => do return (← e.minLength) * n

/-- Whether every match is empty. -/
def onlyEmpty : Expr → Bool
  | empty => true
  | chars _ => false
  | look _ => true
  | capture e => e.onlyEmpty
  | seq a b => a.onlyEmpty && b.onlyEmpty
  | alt a b => a.onlyEmpty && b.onlyEmpty
  | repeats _ max e => max == some 0 || (max.isSome && e.onlyEmpty)

/-! ### Building expressions -/

/-- The expression for one after the other; what is empty is left out. -/
def inSequence : List Expr → Expr
  | [] => .empty
  | e :: es =>
    match e, inSequence es with
    | .empty, rest => rest
    | e, .empty => e
    | e, rest => .seq e rest

/-- The classes that the given expressions are, where all of them are classes of one character, or all
of them classes of several. -/
def classesOf (single : Bool) : List Expr → Option (List CodeSet)
  | [] => some []
  | .chars set :: es =>
    let isSingle := match set.ranges with
      | [r] => r.lo == r.hi
      | _ => false
    if isSingle == single && !set.isEmpty then (classesOf single es).map (set :: ·) else none
  | _ :: _ => none

/-- The choice between expressions that are not all classes. -/
def choice : List Expr → Expr
  | [] => .chars .empty
  | [e] => e
  | e :: es => .alt e (choice es)

/-- The expression for any one of several; a choice between classes is a class. -/
def anyOf (es : List Expr) : Expr :=
  match (classesOf true es).or (classesOf false es) with
  | some sets => .chars (CodeSet.unions sets)
  | none => choice es

/-- The expression for a repetition.  What is always empty need not be repeated more than once, and
nothing or one time of an expression is no repetition. -/
def times (min : Nat) (max : Option Nat) (e : Expr) : Expr :=
  let (min, max) :=
    if e.onlyEmpty then (Nat.min min 1, some (Nat.min (max.getD 1) 1)) else (min, max)
  if max == some 0 then .empty
  else if min == 1 && max == some 1 then e
  else .repeats min max e

end Expr

end ReplyRules.Regex
