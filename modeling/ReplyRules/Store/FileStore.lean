import ReplyRules.Store.FileSystem
import ReplyRules.Store.RuleBook

/-!
Keeping a rule book in a file.  A book is written to a file beside the target, which then takes the
target's place, so that the target always holds a whole book.
-/

namespace ReplyRules

/-- Why a store does not do what it is asked. -/
inductive StoreError where
  | io (e : IoError)
  /-- The stored text is not that of a book. -/
  | malformed (text : Bytes) (e : JsonError)
  | unavailable (reason : String)
  deriving DecidableEq, Repr

/-- The text of an error. -/
def StoreError.message : StoreError → String
  | io e => "storage I/O failed: " ++ e.message
  | malformed text e => "stored snapshot is malformed: " ++ e.message text
  | unavailable reason => "storage unavailable: " ++ reason

/-- A step of saving a book. -/
inductive SaveStep where
  | createDirectories (p : Path)
  | write (p : Path) (content : Bytes)
  | rename (source target : Path)
  deriving DecidableEq, Repr

/-- What comes of a step, and the file system behind it. -/
def SaveStep.run (fs : FileSystem) : SaveStep → Except IoError Unit × FileSystem
  | createDirectories p => fs.createDirectories p
  | write p content => fs.after (fs.write p content)
  | rename source target => fs.after (fs.rename source target)

/-- Takes steps up to the first one that is refused; what was done before it stays done. -/
def SaveStep.runAll (fs : FileSystem) : List SaveStep → Except IoError Unit × FileSystem
  | [] => (.ok (), fs)
  | step :: steps =>
    match step.run fs with
    | (.ok (), fs) => runAll fs steps
    | (.error e, fs) => (.error e, fs)

/-- A store that keeps a book in the file at a path. -/
structure FileStore where
  path : Path
  deriving DecidableEq, Repr, Inhabited

namespace FileStore

/-- The directory of the file. -/
def directory (s : FileStore) : Path := s.path.dropLast

/-- The name of the file. -/
def name (s : FileStore) : String := s.path.getLastD ""

/-- The name of the file beside the target that a book is written to first. -/
def tempName (s : FileStore) : String := s.name ++ ".tmp"

/-- The file beside the target that a book is written to first. -/
def tempPath (s : FileStore) : Path := s.directory ++ [s.tempName]

/-- The bytes a book is stored as. -/
def content (b : RuleBook) : Bytes := Text.toBytes b.toText

/-- The steps of saving a book. -/
def saveSteps (s : FileStore) (b : RuleBook) : List SaveStep :=
  [.createDirectories s.directory, .write s.tempPath (content b), .rename s.tempPath s.path]

/-- Saves a book. -/
def save (s : FileStore) (b : RuleBook) : StateM FileSystem (Except StoreError Unit) := fun fs =>
  let (result, fs) := SaveStep.runAll fs (s.saveSteps b)
  (result.mapError .io, fs)

/-- The stored book.  Without a file it is the one to begin with. -/
def load (s : FileStore) (now : Instant) (fs : FileSystem) : Except StoreError RuleBook :=
  match fs.read s.path with
  | .ok text => (RuleBook.ofBytes now text).mapError (.malformed text)
  | .error .notFound => .ok .initial
  | .error e => .error (.io e)

end FileStore

end ReplyRules
