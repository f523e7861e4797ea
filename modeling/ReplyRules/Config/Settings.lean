import ReplyRules.Toml.Document
import ReplyRules.Log.EventLog
import ReplyRules.Store.FileStore

/-!
The settings of an engine, and reading them from TOML texts.
-/

namespace ReplyRules

/-- The settings of an engine. -/
structure Settings where
  /-- How many entries the log keeps. -/
  logCapacity : Nat
  /-- How many commands may wait. -/
  commandBuffer : Nat
  /-- Where the rules are kept, if in a file. -/
  rulesFile : Option String
  deriving DecidableEq, Repr

/-- Why settings are refused. -/
inductive SettingsError where
  | io (e : IoError)
  /-- The file is no text. -/
  | notText
  /-- The text is not TOML, or a setting is not of its kind. -/
  | invalid
  deriving DecidableEq, Repr

namespace Settings

/-- The settings where nothing is said. -/
def initial : Settings := ⟨EventLog.defaultCapacity, 64, none⟩

instance : Inhabited Settings := ⟨initial⟩

/-- A number from 0. -/
def natural? : Toml → Option Nat
  | .integer i => if 0 ≤ i then some i.toNat else none
  | _ => none

/-- A text. -/
def text? : Toml → Option String
  | .string s => some s
  | _ => none

/-- A setting, or what holds without it. -/
def setting? (entries : Toml.Entries) (key : String) (decode : Toml → Option α) (initial : α) :
    Option α :=
  match entries.lookup key with
  | some v => decode v
  | none => some initial

/-- The settings among the entries of a document; other entries do not matter. -/
def ofEntries? (entries : Toml.Entries) : Option Settings := do
  return {
    logCapacity := ← setting? entries "log_capacity" natural? initial.logCapacity
    commandBuffer := ← setting? entries "command_buffer" natural? initial.commandBuffer
    rulesFile := ← setting? entries "rules_file" (fun v => (text? v).map some) initial.rulesFile }

/-- The settings of a text. -/
def ofText (text : String) : Except SettingsError Settings :=
  match (Toml.ofText? text).bind ofEntries? with
  | some settings => .ok settings
  | none => .error .invalid

/-- The settings in a file; without the file nothing is said. -/
def load (fs : FileSystem) (p : Path) : Except SettingsError Settings :=
  match fs.read p with
  | .ok bytes =>
    match Text.ofBytes? bytes with
    | some text => ofText text
    | none => .error .notText
  | .error .isDirectory => .error (.io .isDirectory)
  | .error _ => .ok initial

/-- The store in the file that is set, if one is. -/
def store? (s : Settings) : Option FileStore := s.rulesFile.map fun file => ⟨Path.ofString file⟩

end Settings

end ReplyRules
