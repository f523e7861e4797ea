import ReplyRules.Unicode.CaseFold
import ReplyRules.Regex.SyntaxError
import ReplyRules.Regex.Expr

/-!
From written patterns to expressions.  The switches in force decide what a dot, an anchor, a class or a
letter stands for; a pattern that could match bytes which are no UTF-8 is refused.
-/

namespace ReplyRules.Regex

open Unicode (CodeSet CodeRange PropertyQuery PropertyError foldGroup categoryOfCode propertyRow
  wordSet)

/-! ### Switches in force -/

/-- The switches that bear on the meaning of a pattern. -/
structure Mode where
  caseInsensitive : Bool
  multiLine : Bool
  dotMatchesNewLine : Bool
  crlf : Bool
  unicode : Bool
  deriving DecidableEq, Repr

/-- The switches that patterns begin with. -/
def Mode.initial : Mode := ⟨false, false, false, false, true⟩

/-- The switches after the given ones have been set. -/
def Mode.set (m : Mode) (items : List FlagItem) : Mode :=
  { caseInsensitive := (flagSetting .caseInsensitive true items).getD m.caseInsensitive
    multiLine := (flagSetting .multiLine true items).getD m.multiLine
    dotMatchesNewLine := (flagSetting .dotMatchesNewLine true items).getD m.dotMatchesNewLine
    crlf := (flagSetting .crlf true items).getD m.crlf
    unicode := (flagSetting .unicode true items).getD m.unicode }

/-! ### Classes -/

/-- The ranges of the classes with names. -/
def AsciiClass.set (kind : AsciiClass) : CodeSet :=
  let ranges : List (Char × Char) :=
    match kind with
    | alnum => [('0', '9'), ('A', 'Z'), ('a', 'z')]
    | alpha => [('A', 'Z'), ('a', 'z')]
    | ascii => [('\x00', '\x7F')]
    | blank => [('\t', '\t'), (' ', ' ')]
    | cntrl => [('\x00', '\x1F'), ('\x7F', '\x7F')]
    | digit => [('0', '9')]
    | graph => [('!', '~')]
    | lower => [('a', 'z')]
    | print => [(' ', '~')]
    | punct => [('!', '/'), (':', '@'), ('[', '`'), ('\x7B', '~')]
    | space => [('\t', '\r'), (' ', ' ')]
    | upper => [('A', 'Z')]
    | word => [('0', '9'), ('A', 'Z'), ('_', '_'), ('a', 'z')]
    | xdigit => [('0', '9'), ('A', 'F'), ('a', 'f')]
  ⟨ranges.map fun r => ⟨r.1.toNat, r.2.toNat⟩⟩

/-- The set of a shorthand class before negation. -/
def Shorthand.set (unicode : Bool) (kind : Shorthand) : CodeSet :=
  match unicode, kind with
  | true, .digit => categoryOfCode "nd"
  | true, .space => propertyRow "whitespace"
  | true, .word => wordSet
  | false, .digit => AsciiClass.digit.set
  | false, .space => AsciiClass.space.set
  | false, .word => AsciiClass.word.set

/-- The set with case ignored if the switch says so, then negated if asked for.  Without Unicode a
negated class would hold bytes that are no characters. -/
def Mode.foldAndNegate (m : Mode) (span : Span) (negated : Bool) (s : CodeSet) :
    Except SyntaxError CodeSet :=
  if m.unicode then
    let s := if m.caseInsensitive then s.foldCase else s
    .ok (if negated then s.compl else s)
  else if negated then refuse .invalidUtf8 span
  else .ok (if m.caseInsensitive then s.foldAsciiCase else s)

/-- The set of a shorthand class. -/
def Mode.shorthandSet (m : Mode) (span : Span) (negated : Bool) (kind : Shorthand) :
    Except SyntaxError CodeSet :=
  let s := kind.set m.unicode
  if !negated then .ok s
  else if m.unicode then .ok s.compl
  else refuse .invalidUtf8 span

/-- The set of a class by property. -/
def Mode.propertySet (m : Mode) (span : Span) (negated : Bool) (query : PropertyQuery) :
    Except SyntaxError CodeSet :=
  if !m.unicode then refuse .unicodeNotAllowed span
  else match query.resolve with
    | .ok s => m.foldAndNegate span negated s
    | .error .unknownProperty => refuse .propertyUnknown span
    | .error .unknownValue => refuse .propertyValueUnknown span

/-- The character that a literal stands for.  A byte above 127 is no character. -/
def Mode.literalChar (m : Mode) (l : Literal) : Except SyntaxError Char :=
  if !m.unicode && l.isByte && l.char.toNat > 0x7F then refuse .invalidUtf8 l.span
  else .ok l.char

/-- The code point that a literal stands for between brackets; without Unicode it has to be ASCII. -/
def Mode.classChar (m : Mode) (l : Literal) : Except SyntaxError Nat :=
  if m.unicode then .ok l.char.toNat
  else do
    let c ← m.literalChar l
    if c.toNat ≤ 0x7F then return c.toNat else refuse .unicodeNotAllowed l.span

/-- Joins two sets by an operator. -/
def SetOperator.apply (op : SetOperator) (s t : CodeSet) : CodeSet :=
  match op with
  | intersection => s.inter t
  | difference => s.diff t
  | symmetricDifference => s.symmDiff t

mutual

/-- The set that an item between brackets stands for. -/
def ClassItem.set (m : Mode) : ClassItem → Except SyntaxError CodeSet
  | .empty _ => .ok .empty
  | .literal l => do
    let n ← m.classChar l
    return .single n
  | .range _ lo hi => do
    let lo ← m.classChar lo
    let hi ← m.classChar hi
    return .ofRange lo hi
  | .ascii span negated kind => m.foldAndNegate span negated kind.set
  | .shorthand span negated kind => m.shorthandSet span negated kind
  | .property span negated query => m.propertySet span negated query
  | .bracketed span negated body => do
    let s ← body.set m
    m.foldAndNegate span negated s
  | .union _ items => do
    let sets ← setsOfItems m items
    return CodeSet.unions sets
  | .binary _ op lhs rhs => do
    let s ← lhs.set m
    let t ← rhs.set m
    let fold := fun (s : CodeSet) =>
      if !m.caseInsensitive then s
      else if m.unicode then s.foldCase else s.foldAsciiCase
    return op.apply (fold s) (fold t)

/-- The sets that items between brackets stand for. -/
def setsOfItems (m : Mode) : List ClassItem → Except SyntaxError (List CodeSet)
  | [] => .ok []
  | item :: items => do
    let s ← item.set m
    let ss ← setsOfItems m items
    return s :: ss

end

/-! ### Patterns -/

/-- The expression for a literal: a class of the letters that differ in case where case is ignored. -/
def Mode.literalExpr (m : Mode) (l : Literal) : Except SyntaxError Expr := do
  let c ← m.literalChar l
  let single := CodeSet.single c.toNat
  if !m.caseInsensitive then return .chars single
  else if m.unicode then
    let group := foldGroup c.toNat
    return .chars (if group.isEmpty then single
      else CodeSet.ofRanges (group.map fun n => ⟨n, n⟩))
  else return .chars single.foldAsciiCase

/-- The characters that a dot stands for. -/
def Mode.dotSet (m : Mode) : CodeSet :=
  if m.dotMatchesNewLine then .full
  else if m.crlf then CodeSet.compl ⟨[⟨0x0A, 0x0A⟩, ⟨0x0D, 0x0D⟩]⟩
  else CodeSet.compl ⟨[⟨0x0A, 0x0A⟩]⟩

/-- The condition that an assertion stands for. -/
def Mode.lookOf (m : Mode) (kind : Assertion) : Look :=
  match kind with
  | .lineStart =>
    if !m.multiLine then .textStart else if m.crlf then .lineStartCrlf else .lineStart
  | .lineEnd => if !m.multiLine then .textEnd else if m.crlf then .lineEndCrlf else .lineEnd
  | .textStart => .textStart
  | .textEnd => .textEnd
  | .wordBoundary => .wordBoundary m.unicode
  | .notWordBoundary => .notWordBoundary m.unicode
  | .wordStart => .wordStart m.unicode
  | .wordEnd => .wordEnd m.unicode
  | .wordStartHalf => .wordStartHalf m.unicode
  | .wordEndHalf => .wordEndHalf m.unicode

mutual

/-- The expression that a pattern stands for, with the switches in force behind it. -/
def Pattern.meaning (m : Mode) : Pattern → Except SyntaxError (Expr × Mode)
  | .empty _ => .ok (.empty, m)
  | .flags _ items => .ok (.empty, m.set items)
  | .literal l => do
    let e ← m.literalExpr l
    return (e, m)
  | .dot span => if m.unicode then .ok (.chars m.dotSet, m) else refuse .invalidUtf8 span
  | .assertion _ kind => .ok (.look (m.lookOf kind), m)
  | .shorthand span negated kind => do
    let s ← m.shorthandSet span negated kind
    return (.chars s, m)
  | .property span negated query => do
    let s ← m.propertySet span negated query
    return (.chars s, m)
  | .bracketed span negated body => do
    let s ← body.set m
    let s ← m.foldAndNegate span negated s
    return (.chars s, m)
  | .repetition _ min max sub => do
    let (e, m) ← sub.meaning m
    return (e.times min max, m)
  | .group _ captures items sub => do
    let (e, _) ← sub.meaning (m.set items)
    return (if captures then .capture e else e, m)
  | .alternation _ branches => do
    let (es, m) ← meaningOfAll m branches
    return (.anyOf es, m)
  | .concat _ parts => do
    let (es, m) ← meaningOfAll m parts
    return (.inSequence es, m)

/-- The expressions that patterns stand for, each under the switches in force behind the one before. -/
def meaningOfAll (m : Mode) : List Pattern → Except SyntaxError (List Expr × Mode)
  | [] => .ok ([], m)
  | p :: ps => do
    let (e, m) ← p.meaning m
    let (es, m) ← meaningOfAll m ps
    return (e :: es, m)

end

end ReplyRules.Regex
