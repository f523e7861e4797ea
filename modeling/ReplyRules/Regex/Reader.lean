import ReplyRules.Regex.Bracket

/-!
Reading patterns.  Groups and alternations nest, so the reader keeps a stack: the groups that are open,
each with what stands before it, and inside a group the branches that are complete.
-/

namespace ReplyRules.Regex

open Unicode (alphabeticSet numericSet)

/-! ### Sequences under construction -/

/-- The parts read so far of a sequence, the last one first. -/
structure OpenConcat where
  first : Position
  parts : List Pattern

/-- The sequence that ends at a place, as one pattern. -/
def OpenConcat.close (q : OpenConcat) (last : Position) : Pattern :=
  match q.parts with
  | [] => .empty ⟨q.first, last⟩
  | [p] => p
  | parts => .concat ⟨q.first, last⟩ parts.reverse

/-- The sequence with one more part. -/
def OpenConcat.push (q : OpenConcat) (p : Pattern) : OpenConcat := { q with parts := p :: q.parts }

/-- What waits on the stack. -/
inductive GroupFrame where
  /-- An open group: what stands before it, the stretch of its parenthesis, whether it captures, its
  switches, and whether blank space was passed over before it. -/
  | group (prior : OpenConcat) (head : Span) (captures : Bool) (items : List FlagItem)
      (verbose : Bool)
  /-- The complete branches of an alternation, the last one first. -/
  | branches (first : Position) (done : List Pattern)

/-- How far a pattern has been read: the cursor, the sequence at hand, what waits, and the names given
to groups. -/
structure ReaderState where
  cursor : Cursor
  concat : OpenConcat
  stack : List GroupFrame
  names : List (String × Span)

/-! ### Switches -/

/-- The switch with the given letter. -/
def Flag.ofLetter? (c : Char) : Option Flag :=
  match c with
  | 'i' => some .caseInsensitive
  | 'm' => some .multiLine
  | 's' => some .dotMatchesNewLine
  | 'U' => some .swapGreed
  | 'u' => some .unicode
  | 'R' => some .crlf
  | 'x' => some .ignoreWhitespace
  | _ => none

/-- Reads switches up to a colon or a closing parenthesis; `seen` holds those read so far with their
places, the last one first, and at most `n` more are read. -/
def readFlags (seen : List (FlagItem × Span)) :
    Nat → Cursor → Except SyntaxError (List FlagItem × Cursor)
  | 0, c => refuse .flagUnexpectedEnd c.here
  | n + 1, c =>
    match c.rest with
    | [] => refuse .flagUnexpectedEnd c.here
    | ch :: _ =>
      if ch == ':' || ch == ')' then
        match seen with
        | (.negation, span) :: _ => refuse .flagDanglingNegation span
        | seen => .ok ((seen.map (·.1)).reverse, c)
      else
        let item? := if ch == '-' then some .negation else (Flag.ofLetter? ch).map .flag
        match item? with
        | none => refuse .flagUnrecognized c.charSpan
        | some item =>
          match seen.find? (·.1 == item) with
          | some (_, first) =>
            let fault := if ch == '-' then Fault.flagRepeatedNegation else .flagDuplicate
            refuseSecond fault c.charSpan first
          | none =>
            let behind := c.next
            if behind.atEnd then refuse .flagUnexpectedEnd behind.here
            else readFlags ((item, c.charSpan) :: seen) n behind

/-! ### Names of groups -/

/-- Whether the character may stand in the name of a group, at its beginning or behind it. -/
def isNameChar (first : Bool) (c : Char) : Bool :=
  c == '_' || alphabeticSet.hasChar c ||
    (!first && (c == '.' || c == '[' || c == ']' || numericSet.hasChar c))

/-- Passes over the characters of a name up to `>`; `begun` tells whether one has been read. -/
def readNameChars (begun : Bool) : Nat → Cursor → Except SyntaxError (List Char × Cursor)
  | 0, c => .ok ([], c)
  | n + 1, c =>
    match c.rest with
    | [] => .ok ([], c)
    | ch :: _ =>
      if ch == '>' then .ok ([], c)
      else if isNameChar (!begun) ch then do
        let (name, c) ← readNameChars true n c.next
        return (ch :: name, c)
      else refuse .groupNameInvalid c.charSpan

/-- Reads the name of a group and the `>` behind it. -/
def readGroupName (names : List (String × Span)) (c : Cursor) :
    Except SyntaxError ((String × Span) × Cursor) := do
  let (name, stop) ← readNameChars false c.rest.length c
  if stop.atEnd then refuse .groupNameUnexpectedEnd stop.here
  else if name.isEmpty then refuse .groupNameEmpty c.here
  else
    let name := String.ofList name
    let span := stop.since c.pos
    match names.find? (·.1 == name) with
    | some (_, first) => refuseSecond .groupNameDuplicate span first
    | none => return ((name, span), stop.next)

/-! ### Groups -/

/-- The beginnings of look-around. -/
def lookAroundHeads : List (List Char) :=
  [['?', '='], ['?', '!'], ['?', '<', '='], ['?', '<', '!']]

/-- Opens a group: the sequence at hand waits, and a new one begins. -/
def ReaderState.openGroup (st : ReaderState) (head : Span) (captures : Bool)
    (items : List FlagItem) (c : Cursor) : ReaderState :=
  let verbose := (flagSetting .ignoreWhitespace true items).getD c.verbose
  let c := { c with verbose := verbose }
  { st with
    cursor := c
    concat := ⟨c.pos, []⟩
    stack := .group st.concat head captures items st.cursor.verbose :: st.stack }

/-- Reads what an opening parenthesis begins: a group, or switches for the rest of the group around. -/
def ReaderState.pushGroup (st : ReaderState) : Except SyntaxError ReaderState := do
  let head := st.cursor.charSpan
  let c := st.cursor.advance
  match lookAroundHeads.findSome? c.skip? with
  | some behind => refuse .unsupportedLookAround (behind.since head.first)
  | none =>
    match (c.skip? ['?', 'P', '<']).or (c.skip? ['?', '<']) with
    | some inside =>
      let (name, c) ← readGroupName st.names inside
      return { st with names := name :: st.names }.openGroup head true [] c
    | none =>
      match c.skip? ['?'] with
      | none => return st.openGroup head true [] c
      | some inside =>
        if inside.atEnd then refuse .groupUnclosed head
        else
          let (items, stop) ← readFlags [] inside.rest.length inside
          let behind := stop.next
          if stop.sees ')' then
            if items.isEmpty then refuse .repetitionMissing c.here
            else
              let verbose := (flagSetting .ignoreWhitespace true items).getD behind.verbose
              return { st with
                cursor := { behind with verbose := verbose }
                concat := st.concat.push (.flags (behind.since head.first) items) }
          else return st.openGroup head false items behind

/-- The alternation of the given branches, the last one first. -/
def closeBranches (first last : Position) (done : List Pattern) : Pattern :=
  match done with
  | [p] => p
  | done => .alternation ⟨first, last⟩ done.reverse

/-- Closes a group, at its closing parenthesis. -/
def ReaderState.popGroup (st : ReaderState) : Except SyntaxError ReaderState :=
  let last := st.cursor.pos
  let c := st.cursor.next
  let finish := fun (prior : OpenConcat) (head : Span) (captures : Bool) (items : List FlagItem)
      (verbose : Bool) (stack : List GroupFrame) (sub : Pattern) =>
    { st with
      cursor := { c with verbose := verbose }
      concat := prior.push (.group (c.since head.first) captures items sub)
      stack := stack }
  match st.stack with
  | .group prior head captures items verbose :: stack =>
    .ok (finish prior head captures items verbose stack (st.concat.close last))
  | .branches first done :: .group prior head captures items verbose :: stack =>
    .ok (finish prior head captures items verbose stack
      (closeBranches first last (st.concat.close last :: done)))
  | _ => refuse .groupUnopened st.cursor.charSpan

/-- Begins the next branch, at a vertical bar. -/
def ReaderState.pushBranch (st : ReaderState) : ReaderState :=
  let branch := st.concat.close st.cursor.pos
  let c := st.cursor.next
  let stack :=
    match st.stack with
    | .branches first done :: stack => .branches first (branch :: done) :: stack
    | stack => .branches st.concat.first [branch] :: stack
  { st with cursor := c, concat := ⟨c.pos, []⟩, stack := stack }

/-! ### Repetitions -/

/-- The part that an operator of repetition behind it stands for, and the parts before it. -/
def OpenConcat.popOperand (q : OpenConcat) (c : Cursor) :
    Except SyntaxError (Pattern × OpenConcat) :=
  match q.parts with
  | [] => refuse .repetitionMissing c.here
  | .empty _ :: _ => refuse .repetitionMissing c.here
  | .flags _ _ :: _ => refuse .repetitionMissing c.here
  | p :: parts => .ok (p, { q with parts := parts })

/-- Repeats the last part, at one of the signs `?`, `*` and `+`. -/
def ReaderState.repeatSign (st : ReaderState) (min : Nat) (max : Option Nat) :
    Except SyntaxError ReaderState := do
  let (p, q) ← st.concat.popOperand st.cursor
  let c := st.cursor.next
  let c := if c.sees '?' then c.next else c
  return { st with
    cursor := c, concat := q.push (.repetition (c.since p.span.first) min max p) }

/-- Reads the counts of a repetition, behind the opening brace at `first`. -/
def readCounts (first : Position) (c : Cursor) :
    Except SyntaxError ((Nat × Option Nat) × Cursor) := do
  let (least, c) := readDecimal c
  if c.atEnd then refuse .repetitionCountUnclosed (c.since first)
  else if !c.sees ',' then
    let n ← least
    return ((n, some n), c)
  else
    let c := c.advance
    if c.atEnd then refuse .repetitionCountUnclosed (c.since first)
    else if c.sees '}' then
      let n ← least
      return ((n, none), c)
    else
      let n ← least
      let (most, c) := readDecimal c
      let m ← most
      return ((n, some m), c)

/-- Repeats the last part, at the opening brace of a count. -/
def ReaderState.repeatCount (st : ReaderState) : Except SyntaxError ReaderState := do
  let first := st.cursor.pos
  let (p, q) ← st.concat.popOperand st.cursor
  let c := st.cursor.advance
  if c.atEnd then refuse .repetitionCountUnclosed (c.since first)
  else
    let ((min, max), c) ← readCounts first c
    if !c.sees '}' then refuse .repetitionCountUnclosed (c.since first)
    else
      let c := c.advance
      let c := if c.sees '?' then c.next else c
      if max.all (min ≤ ·) then
        return { st with
          cursor := c, concat := q.push (.repetition (c.since p.span.first) min max p) }
      else refuse .repetitionCountInvalid (c.since first)

/-! ### Whole patterns -/

/-- One step of reading, at a cursor that is not at the end. -/
def ReaderState.step (st : ReaderState) : Except SyntaxError ReaderState :=
  match st.cursor.rest with
  | '(' :: _ => st.pushGroup
  | ')' :: _ => st.popGroup
  | '|' :: _ => .ok st.pushBranch
  | '[' :: _ => do
    let (p, c) ← readBracket st.cursor
    return { st with cursor := c, concat := st.concat.push p }
  | '?' :: _ => st.repeatSign 0 (some 1)
  | '*' :: _ => st.repeatSign 0 none
  | '+' :: _ => st.repeatSign 1 none
  | '{' :: _ => st.repeatCount
  | _ => do
    let (a, c) ← readAtom st.cursor
    return { st with cursor := c, concat := st.concat.push a.toPattern }

/-- The pattern that has been read, at its end. -/
def ReaderState.finish (st : ReaderState) : Except SyntaxError Pattern :=
  let last := st.cursor.pos
  let whole := st.concat.close last
  match st.stack with
  | [] => .ok whole
  | [.branches first done] => .ok (closeBranches first last (whole :: done))
  | .group _ head _ _ _ :: _ => refuse .groupUnclosed head
  | .branches _ _ :: .group _ head _ _ _ :: _ => refuse .groupUnclosed head
  | .branches _ _ :: .branches first done :: _ =>
    .ok (closeBranches first last (whole :: done))

/-- Reads the rest of a pattern in at most `n` steps. -/
def ReaderState.run : Nat → ReaderState → Except SyntaxError Pattern
  | 0, st => st.finish
  | n + 1, st =>
    let st := { st with cursor := st.cursor.skipSpace }
    if st.cursor.atEnd then st.finish
    else do
      let st ← st.step
      run n st

/-- Reads a pattern.  Every step passes over a character, so there are no more steps than characters. -/
def readPattern (cs : List Char) : Except SyntaxError Pattern :=
  ReaderState.run (cs.length + 1) ⟨.start cs, ⟨.start, []⟩, [], []⟩

end ReplyRules.Regex
