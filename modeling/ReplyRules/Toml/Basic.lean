/-!
TOML values and documents, as trees.  A table may be opened by its own header, be there because a header
names something inside it, or be there because a dotted key does; which of these it is decides how it
may be added to.
-/

namespace ReplyRules

namespace Toml

/-- How a table came to be there. -/
inductive Origin where
  /-- It has a header, or is the document. -/
  | header
  /-- A header names something inside it. -/
  | path
  /-- A dotted key names something inside it. -/
  | dotted
  deriving DecidableEq, Repr, Inhabited

end Toml

/-- A part of a TOML document. -/
inductive Toml where
  | string (s : String)
  | integer (i : Int)
  | float (text : String)
  | boolean (b : Bool)
  | dateTime (text : String)
  | array (items : List Toml)
  /-- A table between braces; nothing can be added to it. -/
  | inlineTable (entries : List (String × Toml))
  | table (origin : Toml.Origin) (entries : List (String × Toml))
  /-- Tables under one name, each with a header of its own. -/
  | tables (all : List (List (String × Toml)))
  deriving Repr, Inhabited

namespace Toml

/-- The entries of a table. -/
abbrev Entries := List (String × Toml)

/-- The entries with another value for a key. -/
def setEntry (key : String) (value : Toml) (entries : Entries) : Entries :=
  entries.map fun entry => if entry.1 == key then (key, value) else entry

/-- A change to a table, which may be refused. -/
abbrev Change := Origin → Entries → Option (Origin × Entries)

/-- Makes a change to the table at the end of a path, and makes the tables on the way that are not there.
A dotted path does not enter tables with a header.  Of tables under one name the last is meant. -/
def changeAt (dotted : Bool) (change : Change) : List String → Change
  | [], origin, entries => change origin entries
  | key :: keys, origin, entries =>
    match entries.lookup key with
    | none => do
      let (o, inner) ← changeAt dotted change keys (if dotted then .dotted else .path) []
      return (origin, entries ++ [(key, .table o inner)])
    | some (.table o inner) =>
      if dotted && o == .header then none
      else do
        let (o, inner) ← changeAt dotted change keys o inner
        return (origin, setEntry key (.table o inner) entries)
    | some (.tables all) => do
      let last ← all.getLast?
      let (_, last) ← changeAt dotted change keys .header last
      return (origin, setEntry key (.tables (all.dropLast ++ [last])) entries)
    | some _ => none

/-- Adds a value under a key that is not there yet.  `plain` tells that the key has no dots; with dots, the
table has to be one that dotted keys have made. -/
def addEntry (plain : Bool) (key : String) (value : Toml) : Change := fun origin entries =>
  if (origin == .dotted) == plain then none
  else if (entries.lookup key).isSome then none
  else some (origin, entries ++ [(key, value)])

/-- Adds a value under a key with dots. -/
def addAt (path : List String) (key : String) (value : Toml) : Change :=
  changeAt true (addEntry path.isEmpty key value) path

/-- Opens a table by its header; it must not have been opened before. -/
def openTable (key : String) : Change := fun origin entries =>
  match entries.lookup key with
  | none => some (origin, entries ++ [(key, .table .header [])])
  | some (.table .path inner) => some (origin, setEntry key (.table .header inner) entries)
  | some _ => none

/-- Opens one more of the tables under a name. -/
def openNext (key : String) : Change := fun origin entries =>
  match entries.lookup key with
  | none => some (origin, entries ++ [(key, .tables [[]])])
  | some (.tables all) => some (origin, setEntry key (.tables (all ++ [[]])) entries)
  | some _ => none

end Toml

end ReplyRules
