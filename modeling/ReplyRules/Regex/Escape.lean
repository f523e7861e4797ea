import ReplyRules.Regex.Cursor

/-!
Single parts of patterns: characters, escapes, and the classes and assertions written with a backslash.
Each reader begins at the first character of its part and gives back the part with the cursor behind it.
A text can be quoted, so that its characters are read as themselves.
-/

namespace ReplyRules.Regex

open Unicode (PropertyQuery)

/-- A part that is read in one piece. -/
inductive Atom where
  | literal (l : Literal)
  | dot (span : Span)
  | assertion (span : Span) (kind : Assertion)
  | shorthand (span : Span) (negated : Bool) (kind : Shorthand)
  | property (span : Span) (negated : Bool) (query : PropertyQuery)

/-- The stretch that the part takes up. -/
def Atom.span : Atom → Span
  | literal l => l.span
  | dot s => s
  | assertion s _ => s
  | shorthand s _ _ => s
  | property s _ _ => s

/-- The part as a pattern. -/
def Atom.toPattern : Atom → Pattern
  | literal l => .literal l
  | dot s => .dot s
  | assertion s k => .assertion s k
  | shorthand s n k => .shorthand s n k
  | property s n q => .property s n q

/-- The part as an item between brackets, where it may be one. -/
def Atom.toClassItem : Atom → Except SyntaxError ClassItem
  | literal l => .ok (.literal l)
  | shorthand s n k => .ok (.shorthand s n k)
  | property s n q => .ok (.property s n q)
  | dot s => refuse .classEscapeInvalid s
  | assertion s _ => refuse .classEscapeInvalid s

/-- The part as an end of a range, where it may be one. -/
def Atom.toRangeEnd : Atom → Except SyntaxError Literal
  | literal l => .ok l
  | a => refuse .classRangeLiteral a.span

/-! ### Characters with a meaning -/

/-- The characters that mean something in a pattern, so that a backslash takes their meaning away. -/
def isMeta (c : Char) : Bool :=
  ['\\', '.', '+', '*', '?', '(', ')', '|', '[', ']', '{', '}', '^', '$', '#', '&', '-', '~'].contains
    c

/-- The text with a backslash in front of every character that has a meaning in patterns. -/
def quoteChars : List Char → List Char
  | [] => []
  | c :: cs => if isMeta c then '\\' :: c :: quoteChars cs else c :: quoteChars cs

/-- The characters that may stand behind a backslash for themselves: those with a meaning, and of the
others in ASCII all but letters, digits and angle brackets. -/
def isEscapable (c : Char) : Bool :=
  isMeta c || (c.toNat ≤ 0x7F && !c.isAlphanum && c != '<' && c != '>')

/-- The characters that a letter behind a backslash stands for. -/
def namedControl? (c : Char) : Option Char :=
  match c with
  | 'a' => some '\x07'
  | 'f' => some '\x0C'
  | 't' => some '\t'
  | 'n' => some '\n'
  | 'r' => some '\r'
  | 'v' => some '\x0B'
  | _ => none

/-! ### Numbers -/

/-- Whether the character is a hexadecimal digit. -/
def isHexDigit (c : Char) : Bool :=
  c.isDigit || ('a' ≤ c && c ≤ 'f') || ('A' ≤ c && c ≤ 'F')

/-- The value of a hexadecimal digit. -/
def hexDigitValue (c : Char) : Nat :=
  if c.isDigit then c.toNat - '0'.toNat
  else if 'a' ≤ c then c.toNat - 'a'.toNat + 10
  else c.toNat - 'A'.toNat + 10

/-- The number written with the given hexadecimal digits. -/
def hexNumber (digits : List Char) : Nat :=
  digits.foldl (fun n d => 16 * n + hexDigitValue d) 0

/-- The number written with the given decimal digits. -/
def decimalNumber (digits : List Char) : Nat :=
  digits.foldl (fun n d => 10 * n + (d.toNat - '0'.toNat)) 0

/-- The character with the given code point, if there is one. -/
def scalar? (n : Nat) : Option Char := if n.isValidChar then some (Char.ofNat n) else none

/-- The first number that a count of repetitions cannot be. -/
def countBound : Nat := Nat.pow 2 32

/-- Reads a decimal number, white space around it passed over. -/
def readDecimal (c : Cursor) : Except SyntaxError Nat × Cursor :=
  let c := c.dropBlanks
  let (digits, stop) := c.takeWhile Char.isDigit
  let span := stop.since c.pos
  let value : Except SyntaxError Nat :=
    if digits.isEmpty then refuse .repetitionCountDecimalEmpty span
    else if decimalNumber digits < countBound then .ok (decimalNumber digits)
    else refuse .decimalInvalid span
  (value, stop.dropBlanks)

/-! ### Escapes with hexadecimal digits -/

/-- Reads `n` hexadecimal digits. -/
def readHexDigits : Nat → Cursor → Except SyntaxError (List Char × Cursor)
  | 0, c => .ok ([], c)
  | n + 1, c =>
    match c.rest with
    | [] => refuse .escapeUnexpectedEnd c.here
    | ch :: _ =>
      if isHexDigit ch then do
        let (digits, c) ← readHexDigits n c.advance
        return (ch :: digits, c)
      else refuse .escapeHexInvalidDigit c.charSpan

/-- Reads the digits of an escape that has exactly `n`; `first` is the place of its backslash. -/
def readHexFixed (first : Position) (n : Nat) (c : Cursor) :
    Except SyntaxError (Literal × Cursor) := do
  let (digits, stop) ← readHexDigits n c
  match scalar? (hexNumber digits) with
  | some ch => return (⟨stop.since first, ch, n == 2⟩, stop)
  | none => refuse .escapeHexInvalid (stop.since c.pos)

/-- Reads the digits of an escape in braces, from the opening brace on. -/
def readHexBraced (first : Position) (c : Cursor) : Except SyntaxError (Literal × Cursor) :=
  let (digits, stop) := c.advance.takeWhile isHexDigit
  match stop.rest with
  | [] => refuse .escapeUnexpectedEnd (stop.since c.pos)
  | ch :: _ =>
    if ch != '}' then refuse .escapeHexInvalidDigit stop.charSpan
    else
      let behind := stop.advance
      if digits.isEmpty then refuse .escapeHexEmpty (behind.since c.pos)
      else match scalar? (hexNumber digits) with
        | some ch => .ok (⟨behind.since first, ch, false⟩, behind)
        | none => refuse .escapeHexInvalid (stop.since c.next.pos)

/-- Reads what stands behind `\x`, `\u` or `\U`; without braces there are `n` digits. -/
def readHex (first : Position) (n : Nat) (c : Cursor) : Except SyntaxError (Literal × Cursor) :=
  let c := c.advance
  if c.atEnd then refuse .escapeUnexpectedEnd c.here
  else if c.sees '{' then readHexBraced first c
  else readHexFixed first n c

/-! ### Classes by property -/

/-- The parts of a text before and behind the first place where `sep` stands, if it does. -/
def splitAtFirst (sep : List Char) (before : List Char) : List Char → Option (List Char × List Char)
  | [] => none
  | c :: cs =>
    if sep.isPrefixOf (c :: cs) then some (before.reverse, (c :: cs).drop sep.length)
    else splitAtFirst sep (c :: before) cs

/-- What is asked for between the braces of `\p{…}`: a name, or a property and a value. -/
def queryOf (name : List Char) : PropertyQuery :=
  let withValue := fun (p : List Char × List Char) =>
    PropertyQuery.withValue (String.ofList p.1) (String.ofList p.2)
  match splitAtFirst ['!', '='] [] name with
  | some p => withValue p
  | none =>
    match splitAtFirst [':'] [] name with
    | some p => withValue p
    | none =>
      match splitAtFirst ['='] [] name with
      | some p => withValue p
      | none => .named (String.ofList name)

/-- Reads what stands behind `\p` or `\P`. -/
def readProperty (first : Position) (negated : Bool) (c : Cursor) :
    Except SyntaxError (Atom × Cursor) :=
  let c := c.advance
  match c.rest with
  | [] => refuse .escapeUnexpectedEnd c.here
  | '{' :: _ =>
    let (name, stop) := c.advance.takeWhile (· != '}')
    if stop.atEnd then refuse .escapeUnexpectedEnd stop.here
    else
      let behind := stop.next
      .ok (.property (behind.since first) negated (queryOf name), behind)
  | '\\' :: _ => refuse .propertyClassInvalid c.charSpan
  | ch :: _ =>
    let behind := c.advance
    .ok (.property (behind.since first) negated (.named (String.ofList [ch])), behind)

/-! ### Word boundaries -/

/-- Whether the character may stand in the name of a word boundary. -/
def isBoundaryNameChar (c : Char) : Bool := c.isAlpha || c == '-'

/-- The word boundary with the given name. -/
def boundaryNamed? (name : List Char) : Option Assertion :=
  match String.ofList name with
  | "start" => some .wordStart
  | "end" => some .wordEnd
  | "start-half" => some .wordStartHalf
  | "end-half" => some .wordEndHalf
  | _ => none

/-- Reads the name in braces behind `\b`, from the opening brace on.  Where no name begins there is
none, and the brace belongs to a count of repetitions. -/
def readBoundaryName (first : Position) (c : Cursor) :
    Except SyntaxError (Option (Assertion × Cursor)) :=
  let inside := c.advance
  match inside.rest with
  | [] => refuse .specialWordOrRepetitionUnexpectedEnd (inside.since first)
  | ch :: _ =>
    if !isBoundaryNameChar ch then .ok none
    else
      let (name, stop) := inside.takeWhile isBoundaryNameChar
      if !stop.sees '}' then refuse .specialWordBoundaryUnclosed (stop.since c.pos)
      else match boundaryNamed? name with
        | some kind => .ok (some (kind, stop.next))
        | none => refuse .specialWordBoundaryUnrecognized (stop.since inside.pos)

/-! ### All escapes -/

/-- Reads an escape whose letter `ch` says all, with the cursor behind it. -/
def readLetterEscape (first : Position) (ch : Char) (c : Cursor) :
    Except SyntaxError (Atom × Cursor) :=
  let span := c.since first
  if isEscapable ch then .ok (.literal ⟨span, ch, false⟩, c)
  else match namedControl? ch with
    | some control => .ok (.literal ⟨span, control, false⟩, c)
    | none =>
      match ch with
      | 'A' => .ok (.assertion span .textStart, c)
      | 'z' => .ok (.assertion span .textEnd, c)
      | 'B' => .ok (.assertion span .notWordBoundary, c)
      | '<' => .ok (.assertion span .wordStart, c)
      | '>' => .ok (.assertion span .wordEnd, c)
      | 'b' =>
        if c.sees '{' then do
          match ← readBoundaryName first c with
          | some (kind, behind) => return (.assertion (behind.since first) kind, behind)
          | none => return (.assertion span .wordBoundary, c)
        else .ok (.assertion span .wordBoundary, c)
      | _ => refuse .escapeUnrecognized span

/-- Reads an escape, from its backslash on. -/
def readEscape (c : Cursor) : Except SyntaxError (Atom × Cursor) :=
  let first := c.pos
  let c := c.next
  let asAtom := fun (r : Literal × Cursor) => (Atom.literal r.1, r.2)
  let shorthand := fun (negated : Bool) (kind : Shorthand) =>
    Except.ok (Atom.shorthand (c.next.since first) negated kind, c.next)
  match c.rest with
  | [] => refuse .escapeUnexpectedEnd (c.since first)
  | ch :: _ =>
    if ch.isDigit then refuse .unsupportedBackreference (c.next.since first)
    else match ch with
      | 'x' => (readHex first 2 c).map asAtom
      | 'u' => (readHex first 4 c).map asAtom
      | 'U' => (readHex first 8 c).map asAtom
      | 'p' => readProperty first false c
      | 'P' => readProperty first true c
      | 'd' => shorthand false .digit
      | 's' => shorthand false .space
      | 'w' => shorthand false .word
      | 'D' => shorthand true .digit
      | 'S' => shorthand true .space
      | 'W' => shorthand true .word
      | _ => readLetterEscape first ch c.next

/-- Reads a part that is neither a group, a class in brackets nor a repetition, at a cursor that is not
at the end. -/
def readAtom (c : Cursor) : Except SyntaxError (Atom × Cursor) :=
  match c.rest with
  | [] => .ok (.literal ⟨c.here, ' ', false⟩, c)
  | '\\' :: _ => readEscape c
  | '.' :: _ => .ok (.dot c.charSpan, c.next)
  | '^' :: _ => .ok (.assertion c.charSpan .lineStart, c.next)
  | '$' :: _ => .ok (.assertion c.charSpan .lineEnd, c.next)
  | ch :: _ => .ok (.literal ⟨c.charSpan, ch, false⟩, c.next)

end ReplyRules.Regex
