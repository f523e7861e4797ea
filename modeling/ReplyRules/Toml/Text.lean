import ReplyRules.Toml.Scan

/-!
The strings of TOML texts: in double quotation marks with escapes or in single ones without, on one line
or, with three marks at each end, on several; and keys.
-/

namespace ReplyRules.Toml

/-- The character a one-letter escape stands for. -/
def simpleEscape? (c : Char) : Option Char :=
  match c with
  | 'b' => some '\x08'
  | 't' => some '\t'
  | 'n' => some '\n'
  | 'f' => some '\x0C'
  | 'r' => some '\r'
  | '"' => some '"'
  | '\\' => some '\\'
  | _ => none

/-- Reads `count` hexadecimal digits. -/
def readHex? : Nat → Nat → List Char → Option (Nat × List Char)
  | 0, n, cs => some (n, cs)
  | _ + 1, _, [] => none
  | count + 1, n, c :: cs => (hexValue? c).bind fun d => readHex? count (n * 16 + d) cs

/-- The character with a number. -/
def charOf? (n : Nat) : Option Char := if n.isValidChar then some (Char.ofNat n) else none

/-- The character an escape stands for, from behind the backslash. -/
def readEscape? : List Char → Option (Char × List Char)
  | [] => none
  | 'u' :: cs => do
    let (n, cs) ← readHex? 4 0 cs
    return (← charOf? n, cs)
  | 'U' :: cs => do
    let (n, cs) ← readHex? 8 0 cs
    return (← charOf? n, cs)
  | c :: cs => (simpleEscape? c).map fun c => (c, cs)

/-- A string on one line, from behind its opening mark; `read` holds its characters, the last first. -/
def readBasic? : Nat → List Char → List Char → Option (String × List Char)
  | 0, _, _ => none
  | _ + 1, _, [] => none
  | _ + 1, read, '"' :: cs => some (String.ofList read.reverse, cs)
  | fuel + 1, read, '\\' :: cs =>
    match readEscape? cs with
    | some (c, cs) => readBasic? fuel (c :: read) cs
    | none => none
  | fuel + 1, read, c :: cs => if isPlain c then readBasic? fuel (c :: read) cs else none

/-- A string on one line without escapes, from behind its opening mark. -/
def readLiteral? (cs : List Char) : Option (String × List Char) :=
  let inner := cs.takeWhile fun c => c != '\'' && isPlain c
  match cs.drop inner.length with
  | '\'' :: rest => some (String.ofList inner, rest)
  | _ => none

/-- The end of a string on several lines: three marks, and up to two more that belong to the string. -/
def readMarks? (mark : Char) (cs : List Char) : Option (List Char × List Char) :=
  let marks := cs.takeWhile (· == mark)
  if marks.length < 3 then none
  else
    let own := min (marks.length - 3) 2
    some (List.replicate own mark, cs.drop (own + 3))

/-- A string on several lines, from its first line on. -/
def readLines? (mark : Char) (escapes : Bool) : Nat → List Char → List Char → Option (String × List Char)
  | 0, _, _ => none
  | _ + 1, _, [] => none
  | fuel + 1, read, c :: cs =>
    if c == mark then
      match readMarks? mark (c :: cs) with
      | some (own, rest) => some (String.ofList (read.reverse ++ own), rest)
      | none => readLines? mark escapes fuel (c :: read) cs
    else if escapes && c == '\\' then
      match skipLineEnd? (skipSpace cs) with
      | some rest => readLines? mark escapes fuel read (skipBlankLines rest.length rest)
      | none =>
        match readEscape? cs with
        | some (c, cs) => readLines? mark escapes fuel (c :: read) cs
        | none => none
    else
      match skipLineEnd? (c :: cs) with
      | some rest => readLines? mark escapes fuel ('\n' :: read) rest
      | none => if isPlain c then readLines? mark escapes fuel (c :: read) cs else none

/-- A string on several lines, from behind its opening marks; the end of a line just there does not
belong to it. -/
def readMultiline? (mark : Char) (escapes : Bool) (cs : List Char) : Option (String × List Char) :=
  let cs := (skipLineEnd? cs).getD cs
  readLines? mark escapes (cs.length + 1) [] cs

/-- A string. -/
def readString? : List Char → Option (String × List Char)
  | '"' :: '"' :: '"' :: cs => readMultiline? '"' true cs
  | '"' :: cs => readBasic? (cs.length + 1) [] cs
  | '\'' :: '\'' :: '\'' :: cs => readMultiline? '\'' false cs
  | '\'' :: cs => readLiteral? cs
  | _ => none

/-- A key without dots. -/
def readSimpleKey? : List Char → Option (String × List Char)
  | '"' :: cs => readBasic? (cs.length + 1) [] cs
  | '\'' :: cs => readLiteral? cs
  | cs =>
    let key := cs.takeWhile isKeyChar
    if key.isEmpty then none else some (String.ofList key, cs.drop key.length)

/-- The parts of a key, with blanks around the dots. -/
def readKeyParts? : Nat → List Char → Option (List String × List Char)
  | 0, _ => none
  | fuel + 1, cs => do
    let (part, cs) ← readSimpleKey? (skipSpace cs)
    match skipSpace cs with
    | '.' :: cs =>
      let (parts, cs) ← readKeyParts? fuel cs
      return (part :: parts, cs)
    | cs => return ([part], cs)

/-- A key: the parts in front of the last dot, and the last one.  Keys of 80 parts are refused. -/
def readKey? (cs : List Char) : Option (List String × String × List Char) := do
  let (parts, cs) ← readKeyParts? (cs.length + 1) cs
  let last ← parts.getLast?
  if parts.length < 80 then return (parts.dropLast, last, cs) else none

end ReplyRules.Toml
