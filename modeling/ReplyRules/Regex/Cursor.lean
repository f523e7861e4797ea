import ReplyRules.Regex.SyntaxError
import ReplyRules.Text.Basic

/-!
Reading a pattern from left to right: the characters that are left, the place reached, and whether blank
space and comments are passed over.
-/

namespace ReplyRules.Regex

open Text (isBlank)

/-- How far a pattern has been read. -/
structure Cursor where
  rest : List Char
  pos : Position
  verbose : Bool
  deriving DecidableEq, Repr, Inhabited

namespace Cursor

/-- The cursor in front of a pattern. -/
def start (pattern : List Char) : Cursor := ⟨pattern, .start, false⟩

/-- Whether nothing is left. -/
def atEnd (c : Cursor) : Bool := c.rest.isEmpty

/-- Whether the next character is `ch`. -/
def sees (c : Cursor) (ch : Char) : Bool := c.rest.head? == some ch

/-- Passes over one character. -/
def next (c : Cursor) : Cursor :=
  match c.rest with
  | [] => c
  | ch :: rest => { c with rest := rest, pos := c.pos.after ch }

/-- The stretch from a place to the cursor. -/
def since (c : Cursor) (first : Position) : Span := ⟨first, c.pos⟩

/-- The empty stretch at the cursor. -/
def here (c : Cursor) : Span := ⟨c.pos, c.pos⟩

/-- The stretch of the next character. -/
def charSpan (c : Cursor) : Span := ⟨c.pos, c.next.pos⟩

/-- Passes over white space, and over comments from `#` to the end of a line. -/
def skipSpaceFrom (verbose inComment : Bool) : List Char → Position → Cursor
  | [], p => ⟨[], p, verbose⟩
  | ch :: cs, p =>
    if inComment then skipSpaceFrom verbose (ch != '\n') cs (p.after ch)
    else if isBlank ch then skipSpaceFrom verbose false cs (p.after ch)
    else if ch == '#' then skipSpaceFrom verbose true cs (p.after ch)
    else ⟨ch :: cs, p, verbose⟩

/-- Passes over white space and comments where the pattern asks for that. -/
def skipSpace (c : Cursor) : Cursor :=
  if c.verbose then skipSpaceFrom c.verbose false c.rest c.pos else c

/-- Passes over one character and what may be skipped behind it. -/
def advance (c : Cursor) : Cursor := c.next.skipSpace

/-- Passes over `text` if it comes next. -/
def skip? (c : Cursor) (text : List Char) : Option Cursor :=
  if text.isPrefixOf c.rest then some (text.foldl (fun c _ => c.next) c) else none

/-- The character behind the next one. -/
def peekSecond? (c : Cursor) : Option Char := c.rest.tail.head?

/-- The first of the given characters that is neither blank nor a mark of a comment; `none` when there
is no such character. -/
def firstSolid? : Bool → List Char → Option Char
  | _, [] => none
  | inComment, ch :: cs =>
    if isBlank ch then firstSolid? inComment cs
    else if !inComment && ch == '#' then firstSolid? true cs
    else some ch

/-- The character behind the next one, blank space skipped where the pattern asks for that.  Where only
blank space is left, it is the blank. -/
def peekSecondSolid? (c : Cursor) : Option Char :=
  if c.verbose then
    match firstSolid? false c.rest.tail with
    | some ch => some ch
    | none => c.peekSecond?
  else c.peekSecond?

/-- The characters from here on that have the property `p`, with what may be skipped between them; at
most `n` of them. -/
def collect (p : Char → Bool) : Nat → Cursor → List Char × Cursor
  | 0, c => ([], c)
  | n + 1, c =>
    match c.rest with
    | [] => ([], c)
    | ch :: _ =>
      if p ch then
        let (found, c) := collect p n c.advance
        (ch :: found, c)
      else ([], c)

/-- All characters from here on that have the property `p`. -/
def takeWhile (p : Char → Bool) (c : Cursor) : List Char × Cursor := c.collect p c.rest.length

/-- The white space from here on passed over, whether or not the pattern asks for that. -/
def dropBlanksFrom (verbose : Bool) : List Char → Position → Cursor
  | [], p => ⟨[], p, verbose⟩
  | ch :: cs, p =>
    if isBlank ch then dropBlanksFrom verbose cs (p.after ch) else ⟨ch :: cs, p, verbose⟩

def dropBlanks (c : Cursor) : Cursor := dropBlanksFrom c.verbose c.rest c.pos

end Cursor

end ReplyRules.Regex
