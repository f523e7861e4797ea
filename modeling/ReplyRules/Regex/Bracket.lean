import ReplyRules.Regex.Escape

/-!
Reading classes in brackets.  Classes nest and are joined by `&&`, `--` and `~~`, so the reader keeps a
stack: the classes that are open, and inside each of them the operator that waits for its right side.
-/

namespace ReplyRules.Regex

/-! ### Unions under construction -/

/-- The items read so far of a class, the last one first. -/
structure OpenUnion where
  span : Span
  items : List ClassItem

/-- The union without items at a place. -/
def OpenUnion.startAt (p : Position) : OpenUnion := ⟨⟨p, p⟩, []⟩

/-- The union with one more item. -/
def OpenUnion.push (u : OpenUnion) (item : ClassItem) : OpenUnion :=
  let first := if u.items.isEmpty then item.span.first else u.span.first
  ⟨⟨first, item.span.last⟩, item :: u.items⟩

/-- The union as one item. -/
def OpenUnion.close (u : OpenUnion) : ClassItem :=
  match u.items with
  | [] => .empty u.span
  | [item] => item
  | items => .union u.span items.reverse

/-! ### The stack -/

/-- What waits on the stack: an open class, with the union around it and the stretch of its opening, or
an operator with its left side. -/
inductive BracketFrame where
  | opened (around : OpenUnion) (head : Span) (negated : Bool)
  | operator (op : SetOperator) (lhs : ClassItem)

/-- The opening of the innermost open class. -/
def innermostHead : List BracketFrame → Option Span
  | [] => none
  | .opened _ head _ :: _ => some head
  | .operator _ _ :: frames => innermostHead frames

/-- The outcome when a pattern ends inside a class. -/
def refuseUnclosed {α : Type} (frames : List BracketFrame) : Except SyntaxError α :=
  refuse .classUnclosed ((innermostHead frames).getD default)

/-- Joins the item with the left side of a waiting operator. -/
def applyOperator (frames : List BracketFrame) (rhs : ClassItem) : ClassItem × List BracketFrame :=
  match frames with
  | .operator op lhs :: frames =>
    (.binary ⟨lhs.span.first, rhs.span.last⟩ op lhs rhs, frames)
  | frames => (rhs, frames)

/-! ### Openings, names and ranges -/

/-- Reads the hyphens that stand for themselves at the beginning of a class; at most `n` of them. -/
def readLeadingHyphens (first : Position) :
    Nat → OpenUnion → Cursor → Except SyntaxError (OpenUnion × Cursor)
  | 0, u, c => .ok (u, c)
  | n + 1, u, c =>
    if c.sees '-' then
      let behind := c.advance
      if behind.atEnd then refuse .classUnclosed ⟨first, first⟩
      else readLeadingHyphens first n (u.push (.literal ⟨c.charSpan, '-', false⟩)) behind
    else .ok (u, c)

/-- Reads the opening of a class, with the characters behind it that stand for themselves there. -/
def readOpening (around : OpenUnion) (c : Cursor) :
    Except SyntaxError (BracketFrame × OpenUnion × Cursor) := do
  let first := c.pos
  let c := c.advance
  if c.atEnd then refuse .classUnclosed (c.since first)
  else
    let negated := c.sees '^'
    let c := if negated then c.advance else c
    if c.atEnd then refuse .classUnclosed (c.since first)
    else
      let (u, c) ← readLeadingHyphens first c.rest.length (.startAt c.pos) c
      if u.items.isEmpty && c.sees ']' then
        let behind := c.advance
        if behind.atEnd then refuse .classUnclosed (behind.since first)
        else
          return (.opened around (behind.since first) negated,
            u.push (.literal ⟨c.charSpan, ']', false⟩), behind)
      else return (.opened around (c.since first) negated, u, c)

/-- Reads a class with a name, such as `[:alpha:]`, if one stands here. -/
def readNamedClass? (c : Cursor) : Option (ClassItem × Cursor) := do
  let inside ← c.skip? ['[', ':']
  if inside.atEnd then none
  else
    let negated := inside.sees '^'
    let inside := if negated then inside.next else inside
    if inside.atEnd then none
    else
      let name := inside.rest.takeWhile (· != ':')
      let stop := name.foldl (fun c _ => c.next) inside
      let behind ← stop.skip? [':', ']']
      let kind ← AsciiClass.named? (String.ofList name)
      return (.ascii (behind.since c.pos) negated kind, behind)

/-- Reads one end of a range, or an item that is no range. -/
def readBracketAtom (c : Cursor) : Except SyntaxError (Atom × Cursor) :=
  match c.rest with
  | [] => .ok (.literal ⟨c.here, ' ', false⟩, c)
  | '\\' :: _ => readEscape c
  | ch :: _ => .ok (.literal ⟨c.charSpan, ch, false⟩, c.next)

/-- Reads an item or a range of a class.  A hyphen makes a range unless a bracket or a second hyphen
follows it. -/
def readRange (frames : List BracketFrame) (c : Cursor) :
    Except SyntaxError (ClassItem × Cursor) := do
  let (lo, c) ← readBracketAtom c
  let c := c.skipSpace
  if c.atEnd then refuseUnclosed frames
  else
    let second := c.peekSecondSolid?
    if !c.sees '-' || second == some ']' || second == some '-' then
      return (← lo.toClassItem, c)
    else
      let c := c.advance
      if c.atEnd then refuseUnclosed frames
      else
        let (hi, c) ← readBracketAtom c
        let span : Span := ⟨lo.span.first, hi.span.last⟩
        let lo ← lo.toRangeEnd
        let hi ← hi.toRangeEnd
        if lo.char ≤ hi.char then return (.range span lo hi, c)
        else refuse .classRangeInvalid span

/-! ### Whole classes -/

/-- A class that has been read, or what to go on with. -/
inductive BracketStep where
  | done (p : Pattern) (c : Cursor)
  | more (frames : List BracketFrame) (u : OpenUnion) (c : Cursor)

/-- The operator written twice as the next character. -/
def operatorAt? (c : Cursor) : Option SetOperator :=
  match c.rest with
  | '&' :: '&' :: _ => some .intersection
  | '-' :: '-' :: _ => some .difference
  | '~' :: '~' :: _ => some .symmetricDifference
  | _ => none

/-- Closes the innermost class, at its closing bracket. -/
def closeBracket (frames : List BracketFrame) (u : OpenUnion) (c : Cursor) : BracketStep :=
  let (body, frames) := applyOperator frames u.close
  match frames with
  | .opened around head negated :: frames =>
    let span := c.next.since head.first
    if frames.isEmpty then .done (.bracketed span negated body) c.next
    else .more frames (around.push (.bracketed span negated body)) c.next
  | frames => .more frames u c.next

/-- One step of reading a class: an opening, a closing, an operator, or an item. -/
def bracketStep (frames : List BracketFrame) (u : OpenUnion) (c : Cursor) :
    Except SyntaxError BracketStep := do
  let c := c.skipSpace
  if c.atEnd then refuseUnclosed frames
  else if c.sees '[' then
    match if frames.isEmpty then none else readNamedClass? c with
    | some (item, c) => return .more frames (u.push item) c
    | none =>
      let (frame, inner, c) ← readOpening u c
      return .more (frame :: frames) inner c
  else if c.sees ']' then return closeBracket frames u c
  else
    match operatorAt? c with
    | some op =>
      let (lhs, frames) := applyOperator frames u.close
      let c := c.next.next
      return .more (.operator op lhs :: frames) (.startAt c.pos) c
    | none =>
      let (item, c) ← readRange frames c
      return .more frames (u.push item) c

/-- Reads a class in at most `n` steps. -/
def readBracketFrom :
    Nat → List BracketFrame → OpenUnion → Cursor → Except SyntaxError (Pattern × Cursor)
  | 0, frames, _, _ => refuseUnclosed frames
  | n + 1, frames, u, c => do
    match ← bracketStep frames u c with
    | .done p c => return (p, c)
    | .more frames u c => readBracketFrom n frames u c

/-- Reads a class, from its opening bracket on.  Every step but the last passes over a character. -/
def readBracket (c : Cursor) : Except SyntaxError (Pattern × Cursor) :=
  readBracketFrom (c.rest.length + 1) [] (.startAt c.pos) c

end ReplyRules.Regex
