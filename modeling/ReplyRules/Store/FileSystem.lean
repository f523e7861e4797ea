import ReplyRules.Text.Utf8

/-!
File systems as values: which directories, files and symbolic links there are, and what the files hold.  A
file may have several names.  The operations are the ones a store needs; each of them gives the file system
behind it or says why it is refused.
-/

namespace ReplyRules

/-- The names on the way from the root, or from another directory.  Two points lead back up. -/
abbrev Path := List String

/-- What stands in a directory under a name. -/
inductive Node where
  | directory
  /-- A name of the file with a number. -/
  | file (id : Nat)
  /-- A symbolic link: where the way goes on, from the root or from the directory of the link. -/
  | link (fromRoot : Bool) (target : Path)
  deriving DecidableEq, Repr, Inhabited

/-- Why an operation is refused. -/
inductive IoError where
  | notFound
  | notDirectory
  | isDirectory
  | alreadyExists
  | tooManyLinks
  deriving DecidableEq, Repr, Inhabited

/-- The text of a refusal. -/
def IoError.message : IoError → String
  | notFound => "not found"
  | notDirectory => "not a directory"
  | isDirectory => "is a directory"
  | alreadyExists => "already exists"
  | tooManyLinks => "too many links"

/-- What stands where, and what the files hold; the root is always there. -/
structure FileSystem where
  /-- The directories, files and links, each with the names of the directories above it and its own. -/
  nodes : List (Path × Node)
  /-- The files with their numbers. -/
  contents : List (Nat × Bytes)
  deriving DecidableEq, Repr, Inhabited

namespace Path

/-- The path with the given text.  Empty names and single points name no step. -/
def ofString (s : String) : Path := ((s.splitOn "/").filter fun name => name != "" && name != ".")

/-- The text of a path. -/
def toString (p : Path) : String := String.intercalate "/" p

end Path

namespace FileSystem

/-- The file system with nothing but the root. -/
def empty : FileSystem := ⟨[], []⟩

/-- What stands at a place, if something does.  A place is a path without links and without steps back. -/
def node? (fs : FileSystem) (p : Path) : Option Node :=
  if p.isEmpty then some .directory else fs.nodes.lookup p

/-- The content of the file with a number. -/
def content (fs : FileSystem) (id : Nat) : Bytes := (fs.contents.lookup id).getD []

/-- The file system without what stands at a place. -/
def remove (fs : FileSystem) (p : Path) : FileSystem :=
  { fs with nodes := fs.nodes.filter (·.1 != p) }

/-- The file system with something else at a place. -/
def put (fs : FileSystem) (p : Path) (node : Node) : FileSystem :=
  { fs with nodes := (p, node) :: (fs.remove p).nodes }

/-- The file system with another content of a file. -/
def setContent (fs : FileSystem) (id : Nat) (content : Bytes) : FileSystem :=
  { fs with contents := (id, content) :: fs.contents.filter (·.1 != id) }

/-- A number that no file has. -/
def fresh (fs : FileSystem) : Nat :=
  fs.nodes.foldr (fun entry next => match entry.2 with
    | .file id => max (id + 1) next
    | _ => next) 0

/-- A content for the file at a place; without one, a new file is put there. -/
def fill (fs : FileSystem) (p : Path) (content : Bytes) : FileSystem :=
  match fs.node? p with
  | some (.file id) => fs.setContent id content
  | _ => (fs.setContent fs.fresh content).put p (.file fs.fresh)

/-! ### Ways -/

/-- Goes down from a directory, name by name; `follow` goes on where a link leads. -/
def descend (fs : FileSystem) (follow : Path → Path → Except IoError Path) :
    Path → Path → Except IoError Path
  | above, [] => .ok above
  | above, name :: names =>
    if name = ".." then fs.descend follow above.dropLast names
    else match fs.node? (above ++ [name]) with
      | some .directory => fs.descend follow (above ++ [name]) names
      | some (.link fromRoot target) => follow (if fromRoot then [] else above) (target ++ names)
      | some (.file _) => if names.isEmpty then .ok (above ++ [name]) else .error .notDirectory
      | none => if names.isEmpty then .ok (above ++ [name]) else .error .notFound

/-- The place that a way from a directory leads to, with so many links on it at most. -/
def locate (fs : FileSystem) : Nat → Path → Path → Except IoError Path
  | 0 => fs.descend fun _ _ => .error .tooManyLinks
  | links + 1 => fs.descend (fs.locate links)

/-- How many links a way may have. -/
def maxLinks : Nat := 40

/-- The place that a path leads to.  If nothing stands there, it is a name in a directory. -/
def find (fs : FileSystem) (p : Path) : Except IoError Path := fs.locate maxLinks [] p

/-- The place that is named by the last name of a path; a link that stands there is not followed. -/
def nameAt (fs : FileSystem) (p : Path) : Except IoError Path := do
  let name := p.getLastD ".."
  if name = ".." then throw .isDirectory
  let above ← fs.find p.dropLast
  match fs.node? above with
  | some .directory => return above ++ [name]
  | some _ => throw .notDirectory
  | none => throw .notFound

/-! ### Operations -/

/-- A directory is at the end of the path. -/
def isDirectory (fs : FileSystem) (p : Path) : Bool :=
  match fs.find p with
  | .ok place => fs.node? place == some .directory
  | .error _ => false

/-- The content of the file at a place. -/
def readAt (fs : FileSystem) (place : Path) : Except IoError Bytes :=
  match fs.node? place with
  | some (.file id) => .ok (fs.content id)
  | some .directory => .error .isDirectory
  | _ => .error .notFound

/-- The content of a file. -/
def read (fs : FileSystem) (p : Path) : Except IoError Bytes := do
  let place ← fs.find p
  fs.readAt place

/-- The file system with a new directory. -/
def makeDirectory (fs : FileSystem) (p : Path) : Except IoError FileSystem := do
  let place ← fs.nameAt p
  match fs.node? place with
  | some _ => throw .alreadyExists
  | none => return fs.put place .directory

/-- Makes a directory, unless it is there. -/
def ensureDirectory (fs : FileSystem) (p : Path) : Except IoError Unit × FileSystem :=
  match fs.makeDirectory p with
  | .ok fs => (.ok (), fs)
  | .error e => (if fs.isDirectory p then .ok () else .error e, fs)

/-- Makes the directory with the names, the last one first.  Where the one above it is missing, that one is
made before. -/
def createUpward (fs : FileSystem) : List String → Except IoError Unit × FileSystem
  | [] => (.ok (), fs)
  | name :: above =>
    let p := (name :: above).reverse
    match fs.makeDirectory p with
    | .error .notFound =>
      match fs.createUpward above with
      | (.ok (), fs) => fs.ensureDirectory p
      | (.error e, fs) => (.error e, fs)
    | _ => fs.ensureDirectory p

/-- Makes all directories on a path that are missing. -/
def createDirectories (fs : FileSystem) (p : Path) : Except IoError Unit × FileSystem :=
  fs.createUpward p.reverse

/-- The file system with another content of the file that a path leads to, or with a new file. -/
def write (fs : FileSystem) (p : Path) (content : Bytes) : Except IoError FileSystem := do
  let place ← fs.find p
  match fs.node? place with
  | some .directory => throw .isDirectory
  | _ => return fs.fill place content

/-- The file system with a file or a link under another name, where it takes the place of what was there.
If both are names of one file, nothing happens. -/
def rename (fs : FileSystem) (source target : Path) : Except IoError FileSystem := do
  let old ← fs.nameAt source
  let new ← fs.nameAt target
  match fs.node? old, fs.node? new with
  | none, _ => throw .notFound
  | some .directory, _ => throw .isDirectory
  | some _, some .directory => throw .isDirectory
  | some (.file id), some (.file id') =>
    return if id = id' then fs else (fs.remove old).put new (.file id)
  | some node, _ => return (fs.remove old).put new node

/-- What comes of an operation on a file system that is done as a whole or not at all. -/
def after (fs : FileSystem) (outcome : Except IoError FileSystem) :
    Except IoError Unit × FileSystem :=
  match outcome with
  | .ok fs => (.ok (), fs)
  | .error e => (.error e, fs)

/-- The text of a place in a listing: directories end with a stroke. -/
def entryText (p : Path) (node : Node) : String :=
  match node with
  | .directory => p.toString ++ "/"
  | _ => p.toString

/-- All places, sorted by their names, a directory in front of what it holds. -/
def listing (fs : FileSystem) : List String :=
  (fs.nodes.mergeSort fun a b => !decide (b.1 < a.1)).map fun (p, node) => entryText p node

end FileSystem

end ReplyRules
