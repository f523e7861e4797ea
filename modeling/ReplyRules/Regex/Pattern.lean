import ReplyRules.Unicode.Property

/-!
Regular expressions as they are written: a tree with the place of every part, by which errors are
reported.  What a tree matches is the business of `Regex.Expr`.
-/

namespace ReplyRules.Regex

open Unicode (PropertyQuery)

/-! ### Places -/

/-- A place between two characters of a pattern; lines and columns count from one. -/
structure Position where
  line : Nat
  column : Nat
  deriving DecidableEq, Repr, Inhabited

/-- The place behind the character `c`. -/
def Position.after (p : Position) (c : Char) : Position :=
  if c == '\n' then ⟨p.line + 1, 1⟩ else ⟨p.line, p.column + 1⟩

/-- The place in front of a pattern. -/
def Position.start : Position := ⟨1, 1⟩

/-- The stretch of a pattern between two places. -/
structure Span where
  first : Position
  last : Position
  deriving DecidableEq, Repr, Inhabited

/-! ### Parts of patterns -/

/-- The switches of `(?…)`. -/
inductive Flag where
  | caseInsensitive
  | multiLine
  | dotMatchesNewLine
  | swapGreed
  | unicode
  | crlf
  | ignoreWhitespace
  deriving DecidableEq, Repr

/-- One character of `(?…)`: a switch, or the sign that turns off those behind it. -/
inductive FlagItem where
  | negation
  | flag (f : Flag)
  deriving DecidableEq, Repr

/-- The flag a list of switches sets for `f`: `some true` or `some false` by the last mention, `none`
without one.  `on` tells whether the sign has not been met yet. -/
def flagSetting (f : Flag) (on : Bool) : List FlagItem → Option Bool
  | [] => none
  | .negation :: items => flagSetting f false items
  | .flag g :: items =>
    match flagSetting f on items with
    | some b => some b
    | none => if g == f then some on else none

/-- Conditions on a place. -/
inductive Assertion where
  | lineStart
  | lineEnd
  | textStart
  | textEnd
  | wordBoundary
  | notWordBoundary
  | wordStart
  | wordEnd
  | wordStartHalf
  | wordEndHalf
  deriving DecidableEq, Repr

/-- The classes with one letter: `\d`, `\s` and `\w`. -/
inductive Shorthand where
  | digit
  | space
  | word
  deriving DecidableEq, Repr

/-- The classes with names between `[:` and `:]`. -/
inductive AsciiClass where
  | alnum
  | alpha
  | ascii
  | blank
  | cntrl
  | digit
  | graph
  | lower
  | print
  | punct
  | space
  | upper
  | word
  | xdigit
  deriving DecidableEq, Repr

/-- The class with the given name, if there is one. -/
def AsciiClass.named? (name : String) : Option AsciiClass :=
  match name with
  | "alnum" => some .alnum
  | "alpha" => some .alpha
  | "ascii" => some .ascii
  | "blank" => some .blank
  | "cntrl" => some .cntrl
  | "digit" => some .digit
  | "graph" => some .graph
  | "lower" => some .lower
  | "print" => some .print
  | "punct" => some .punct
  | "space" => some .space
  | "upper" => some .upper
  | "word" => some .word
  | "xdigit" => some .xdigit
  | _ => none

/-- A character that stands for itself.  `isByte` marks `\xNN`, which stands for a byte where a
pattern does not speak of Unicode. -/
structure Literal where
  span : Span
  char : Char
  isByte : Bool
  deriving DecidableEq, Repr

/-- The ways of joining two classes inside brackets. -/
inductive SetOperator where
  | intersection
  | difference
  | symmetricDifference
  deriving DecidableEq, Repr

/-- What stands between brackets. -/
inductive ClassItem where
  | empty (span : Span)
  | literal (l : Literal)
  | range (span : Span) (lo hi : Literal)
  | ascii (span : Span) (negated : Bool) (kind : AsciiClass)
  | shorthand (span : Span) (negated : Bool) (kind : Shorthand)
  | property (span : Span) (negated : Bool) (query : PropertyQuery)
  | bracketed (span : Span) (negated : Bool) (body : ClassItem)
  | union (span : Span) (items : List ClassItem)
  | binary (span : Span) (op : SetOperator) (lhs rhs : ClassItem)

/-- The stretch of a pattern that the item takes up. -/
def ClassItem.span : ClassItem → Span
  | empty s => s
  | literal l => l.span
  | range s _ _ => s
  | ascii s _ _ => s
  | shorthand s _ _ => s
  | property s _ _ => s
  | bracketed s _ _ => s
  | union s _ => s
  | binary s _ _ _ => s

/-- A pattern.  Whether a repetition is greedy is not kept: it does not bear on which texts match. -/
inductive Pattern where
  | empty (span : Span)
  | flags (span : Span) (items : List FlagItem)
  | literal (l : Literal)
  | dot (span : Span)
  | assertion (span : Span) (kind : Assertion)
  | shorthand (span : Span) (negated : Bool) (kind : Shorthand)
  | property (span : Span) (negated : Bool) (query : PropertyQuery)
  | bracketed (span : Span) (negated : Bool) (body : ClassItem)
  | repetition (span : Span) (min : Nat) (max : Option Nat) (sub : Pattern)
  | group (span : Span) (captures : Bool) (items : List FlagItem) (sub : Pattern)
  | alternation (span : Span) (branches : List Pattern)
  | concat (span : Span) (parts : List Pattern)

/-- The stretch that the pattern takes up. -/
def Pattern.span : Pattern → Span
  | empty s => s
  | flags s _ => s
  | literal l => l.span
  | dot s => s
  | assertion s _ => s
  | shorthand s _ _ => s
  | property s _ _ => s
  | bracketed s _ _ => s
  | repetition s _ _ _ => s
  | group s _ _ _ => s
  | alternation s _ => s
  | concat s _ => s

end ReplyRules.Regex
