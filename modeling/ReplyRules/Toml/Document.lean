import ReplyRules.Toml.Text
import ReplyRules.Toml.Scalar

/-!
TOML documents.  Each line holds a header, a key with its value, or nothing; only strings with three marks
and lists go on over several lines.
-/

namespace ReplyRules.Toml

/-! ### Values -/

/-- The rest of a list, from where a value may stand.  Values may take several lines; the last one may
have a comma behind it. -/
def readItems? (item : List Char → Option (Toml × List Char)) :
    Nat → List Toml → List Char → Option (List Toml × List Char)
  | 0, _, _ => none
  | fuel + 1, items, cs =>
    match skipLines cs.length cs with
    | ']' :: rest => some (items.reverse, rest)
    | cs =>
      match item cs with
      | none => none
      | some (x, rest) =>
        match skipLines rest.length rest with
        | ',' :: rest => readItems? item fuel (x :: items) rest
        | ']' :: rest => some ((x :: items).reverse, rest)
        | _ => none

/-- A key with its value added to a table. -/
def readPair? (item : List Char → Option (Toml × List Char)) (add : List String → String → Toml → Option σ)
    (cs : List Char) : Option (σ × List Char) := do
  let (path, key, cs) ← readKey? cs
  let cs ← skipWord? ['='] (skipSpace cs)
  let (value, cs) ← item (skipSpace cs)
  let state ← add path key value
  return (state, cs)

/-- The rest of a table between braces, from where a key has to stand. -/
def readPairs? (item : List Char → Option (Toml × List Char)) :
    Nat → Entries → List Char → Option (Entries × List Char)
  | 0, _, _ => none
  | fuel + 1, entries, cs =>
    let add := fun path key value => (addAt path key value .header entries).map (·.2)
    match readPair? item add cs with
    | none => none
    | some (entries, rest) =>
      match skipSpace rest with
      | ',' :: rest => readPairs? item fuel entries rest
      | '}' :: rest => some (entries, rest)
      | _ => none

/-- How deep lists and tables may lie inside each other. -/
def maxDepth : Nat := 79

/-- A value. -/
def readValue? : Nat → List Char → Option (Toml × List Char)
  | depth, cs =>
    match cs with
    | '"' :: _ => (readString? cs).map fun (s, rest) => (.string s, rest)
    | '\'' :: _ => (readString? cs).map fun (s, rest) => (.string s, rest)
    | '[' :: rest =>
      match depth with
      | 0 => none
      | depth + 1 =>
        (readItems? (readValue? depth) (rest.length + 1) [] rest).map fun (items, rest) =>
          (.array items, rest)
    | '{' :: rest =>
      match depth with
      | 0 => none
      | depth + 1 =>
        match skipSpace rest with
        | '}' :: rest => some (.inlineTable [], rest)
        | rest =>
          (readPairs? (readValue? depth) (rest.length + 1) [] rest).map fun (entries, rest) =>
            (.inlineTable entries, rest)
    | cs => readScalar? cs

/-! ### Lines -/

/-- A document that has been read in part: what it holds, and the table that is open. -/
structure Draft where
  entries : Entries
  opened : List String
  deriving Repr, Inhabited

namespace Draft

/-- The document after a change to a table. -/
def change (d : Draft) (path : List String) (change : Change) : Option Draft :=
  (changeAt false change path .header d.entries).map fun (_, entries) => { d with entries := entries }

/-- The document with a value added to the open table. -/
def add (d : Draft) (path : List String) (key : String) (value : Toml) : Option Draft :=
  d.change d.opened (addAt path key value)

/-- The document with another table open. -/
def openWith (d : Draft) (path : List String) (key : String) (opening : String → Change) :
    Option Draft :=
  (d.change path (opening key)).map fun d => { d with opened := path ++ [key] }

end Draft

/-- A header. -/
def readHeader? (d : Draft) : List Char → Option (Draft × List Char)
  | '[' :: '[' :: cs => do
    let (path, key, cs) ← readKey? cs
    let cs ← skipWord? [']', ']'] (skipSpace cs)
    return (← d.openWith path key openNext, cs)
  | '[' :: cs => do
    let (path, key, cs) ← readKey? cs
    let cs ← skipWord? [']'] (skipSpace cs)
    return (← d.openWith path key openTable, cs)
  | _ => none

/-- What a line holds, apart from a comment. -/
def readLine? (d : Draft) (cs : List Char) : Option (Draft × List Char) :=
  match cs with
  | [] => some (d, [])
  | '#' :: _ => some (d, cs)
  | '\n' :: _ => some (d, cs)
  | '\r' :: _ => some (d, cs)
  | '[' :: _ => readHeader? d cs
  | cs => readPair? (readValue? maxDepth) d.add cs

/-- The lines of a document. -/
def readDocument? : Nat → Draft → List Char → Option Entries
  | 0, _, _ => none
  | _ + 1, d, [] => some d.entries
  | fuel + 1, d, c :: cs =>
    match readLine? d (skipSpace (c :: cs)) with
    | none => none
    | some (d, rest) =>
      match skipRestOfLine? rest with
      | none => none
      | some rest => readDocument? fuel d rest

/-- The entries of a document; a mark of the byte order may stand in front of it. -/
def ofText? (text : String) : Option Entries :=
  let cs := text.toList
  let cs := if cs.head? == some '\uFEFF' then cs.drop 1 else cs
  readDocument? (cs.length + 1) ⟨[], []⟩ cs

end ReplyRules.Toml
