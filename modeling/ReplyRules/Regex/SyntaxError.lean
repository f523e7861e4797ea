import ReplyRules.Regex.Pattern

/-!
What can be wrong with a pattern, and how it is reported: the pattern with the faulty stretch marked
underneath, and the reason.  A pattern of several lines is shown with numbers in front of its lines and
between two rules.
-/

namespace ReplyRules.Regex

/-- The faults of patterns. -/
inductive Fault where
  | classEscapeInvalid
  | classRangeInvalid
  | classRangeLiteral
  | classUnclosed
  | decimalEmpty
  | decimalInvalid
  | escapeHexEmpty
  | escapeHexInvalid
  | escapeHexInvalidDigit
  | escapeUnexpectedEnd
  | escapeUnrecognized
  | flagDanglingNegation
  | flagDuplicate
  | flagRepeatedNegation
  | flagUnexpectedEnd
  | flagUnrecognized
  | groupNameDuplicate
  | groupNameEmpty
  | groupNameInvalid
  | groupNameUnexpectedEnd
  | groupUnclosed
  | groupUnopened
  | nestedTooDeep (limit : Nat)
  | repetitionCountInvalid
  | repetitionCountDecimalEmpty
  | repetitionCountUnclosed
  | repetitionMissing
  | specialWordBoundaryUnclosed
  | specialWordBoundaryUnrecognized
  | specialWordOrRepetitionUnexpectedEnd
  | propertyClassInvalid
  | unsupportedBackreference
  | unsupportedLookAround
  | unicodeNotAllowed
  | invalidUtf8
  | propertyUnknown
  | propertyValueUnknown
  deriving DecidableEq, Repr

/-- The reason given for a fault. -/
def Fault.message : Fault → String
  | classEscapeInvalid => "invalid escape sequence found in character class"
  | classRangeInvalid => "invalid character class range, the start must be <= the end"
  | classRangeLiteral => "invalid range boundary, must be a literal"
  | classUnclosed => "unclosed character class"
  | decimalEmpty => "decimal literal empty"
  | decimalInvalid => "decimal literal invalid"
  | escapeHexEmpty => "hexadecimal literal empty"
  | escapeHexInvalid => "hexadecimal literal is not a Unicode scalar value"
  | escapeHexInvalidDigit => "invalid hexadecimal digit"
  | escapeUnexpectedEnd =>
    "incomplete escape sequence, reached end of pattern prematurely"
  | escapeUnrecognized => "unrecognized escape sequence"
  | flagDanglingNegation => "dangling flag negation operator"
  | flagDuplicate => "duplicate flag"
  | flagRepeatedNegation => "flag negation operator repeated"
  | flagUnexpectedEnd => "expected flag but got end of regex"
  | flagUnrecognized => "unrecognized flag"
  | groupNameDuplicate => "duplicate capture group name"
  | groupNameEmpty => "empty capture group name"
  | groupNameInvalid => "invalid capture group character"
  | groupNameUnexpectedEnd => "unclosed capture group name"
  | groupUnclosed => "unclosed group"
  | groupUnopened => "unopened group"
  | nestedTooDeep limit =>
    "exceed the maximum number of nested parentheses/brackets (" ++ toString limit ++ ")"
  | repetitionCountInvalid =>
    "invalid repetition count range, the start must be <= the end"
  | repetitionCountDecimalEmpty => "repetition quantifier expects a valid decimal"
  | repetitionCountUnclosed => "unclosed counted repetition"
  | repetitionMissing => "repetition operator missing expression"
  | specialWordBoundaryUnclosed =>
    "special word boundary assertion is either unclosed or contains an invalid character"
  | specialWordBoundaryUnrecognized =>
    "unrecognized special word boundary assertion, valid choices are: " ++
      "start, end, start-half or end-half"
  | specialWordOrRepetitionUnexpectedEnd =>
    "found either the beginning of a special word boundary or a bounded repetition on a \\b " ++
      "with an opening brace, but no closing brace"
  | propertyClassInvalid => "invalid Unicode character class"
  | unsupportedBackreference => "backreferences are not supported"
  | unsupportedLookAround =>
    "look-around, including look-ahead and look-behind, is not supported"
  | unicodeNotAllowed => "Unicode not allowed here"
  | invalidUtf8 => "pattern can match invalid UTF-8"
  | propertyUnknown => "Unicode property not found"
  | propertyValueUnknown => "Unicode property value not found"

/-- A fault with its place.  Where something is there twice, `other` is the place of the first. -/
structure SyntaxError where
  fault : Fault
  span : Span
  other : Option Span
  deriving DecidableEq, Repr

/-- The outcome of reading that fails with a fault at a place. -/
def refuse {α : Type} (fault : Fault) (span : Span) : Except SyntaxError α :=
  .error ⟨fault, span, none⟩

/-- The outcome of reading that fails because something is there twice. -/
def refuseSecond {α : Type} (fault : Fault) (span first : Span) : Except SyntaxError α :=
  .error ⟨fault, span, some first⟩

/-! ### The report -/

/-- Whether the stretch begins and ends on one line. -/
def Span.isOneLine (s : Span) : Bool := s.first.line == s.last.line

/-- The lines of a text.  A line ends with a line feed, and a carriage return right before it is
dropped too; behind a last line feed no line begins.  `line` is the line read so far, backwards. -/
def textLines (line : List Char) : List Char → List (List Char)
  | [] => if line.isEmpty then [] else [line.reverse]
  | c :: cs =>
    if c == '\n' then
      (match line with
        | '\r' :: kept => kept.reverse
        | kept => kept.reverse) :: textLines [] cs
    else textLines (c :: line) cs

/-- The marks under a line for the given stretches of it, which stand in order; `column` is how many
characters the line of marks has so far. -/
def marks (column : Nat) : List Span → List Char
  | [] => []
  | s :: spans =>
    let blanks := (s.first.column - 1) - column
    let carets := max 1 (s.last.column - s.first.column)
    List.replicate blanks ' ' ++ List.replicate carets '^' ++
      marks (column + blanks + carets) spans

/-- The stretches to mark, in order. -/
def SyntaxError.spans (e : SyntaxError) : List Span :=
  match e.other with
  | none => [e.span]
  | some o =>
    if o.first.line < e.span.first.line ∨
        (o.first.line = e.span.first.line ∧ o.first.column ≤ e.span.first.column) then
      [o, e.span]
    else [e.span, o]

/-- A number with blanks in front, `width` characters in all. -/
def padNumber (width n : Nat) : String :=
  let digits := toString n
  String.ofList (List.replicate (width - digits.length) ' ') ++ digits

/-- The lines of a pattern with the marks under them.  `margin` gives what stands before line number
`n`, and `indent` what stands before the marks. -/
def annotate (margin : Nat → String) (indent : String) (spans : List Span) :
    Nat → List (List Char) → String
  | _, [] => ""
  | n, line :: lines =>
    let marked := spans.filter fun s => s.isOneLine && s.first.line == n
    margin n ++ String.ofList line ++ "\n" ++
      (if marked.isEmpty then "" else indent ++ String.ofList (marks 0 marked) ++ "\n") ++
      annotate margin indent spans (n + 1) lines

/-- What is said of a stretch over several lines. -/
def Span.note (s : Span) : String :=
  "on line " ++ toString s.first.line ++ " (column " ++ toString s.first.column ++
    ") through line " ++ toString s.last.line ++ " (column " ++ toString (s.last.column - 1) ++ ")"

/-- The report of an error in the given pattern. -/
def SyntaxError.report (pattern : String) (e : SyntaxError) : String :=
  let cs := pattern.toList
  let lines := textLines [] cs
  let head := "regex parse error:\n"
  let reason := "error: " ++ e.fault.message
  if cs.contains '\n' then
    let count := lines.length + (if cs.getLast? == some '\n' then 1 else 0)
    let width := (toString count).length
    let numbered := count > 1
    let margin := fun n => if numbered then padNumber width n ++ ": " else "    "
    let indent := String.ofList (List.replicate (if numbered then width + 2 else 4) ' ')
    let rule := String.ofList (List.replicate 79 '~') ++ "\n"
    let notes := (e.spans.filter (!·.isOneLine)).map Span.note
    head ++ rule ++ annotate margin indent e.spans 1 lines ++ rule ++
      (if notes.isEmpty then "" else "\n".intercalate notes ++ "\n") ++ reason
  else
    head ++ annotate (fun _ => "    ") "    " e.spans 1 lines ++ reason

end ReplyRules.Regex
