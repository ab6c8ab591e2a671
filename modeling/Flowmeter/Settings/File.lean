import Flowmeter.Diagnostics
import Flowmeter.Files.Tree
import Flowmeter.Program
import Flowmeter.Settings.Document
import Flowmeter.Text.Quoted

/-! The settings file.

A missing file stands for the defaults. What is loaded is brought into range. Saving
makes the directories it needs, and nothing is written unless all of it can be. -/
namespace Flowmeter

/-- Why a file could not be read as text. -/
inductive ReadFault
  | file (fault : FileFault)
  | notUnicode
  deriving DecidableEq, Repr

def ReadFault.message : ReadFault → String
  | file fault => fault.message
  | notUnicode => "stream did not contain valid UTF-8"

/-- Why settings could not be loaded or saved. -/
inductive SettingsError
  /-- There is no place for settings. -/
  | noPlace
  | read (path : String) (fault : ReadFault)
  | parse (cause : Json.Cause) (position : Json.Position)
  | makeDirectory (path : String) (fault : FileFault)
  /-- The log file's path cannot be written as text. -/
  | unwritablePath
  | write (path : String) (fault : FileFault)
  deriving DecidableEq, Repr

namespace SettingsError

def message : SettingsError → String
  | noPlace => "Could not determine config directory"
  | read path _ => "Failed to read settings file: " ++ Text.quoted path
  | parse _ _ => "Failed to parse settings file"
  | makeDirectory path _ => "Failed to create config directory: " ++ Text.quoted path
  | unwritablePath => "Failed to serialize settings"
  | write path _ => "Failed to write settings file: " ++ Text.quoted path

/-- What lies behind an error. -/
def cause? : SettingsError → Option String
  | noPlace => none
  | parse cause position =>
    some (cause.message ++ " at line " ++ toString position.line ++ " column " ++
      toString position.column)
  | read _ fault => some fault.message
  | makeDirectory _ fault | write _ fault => some fault.message
  | unwritablePath => some "path contains invalid UTF-8 characters"

end SettingsError

/-- Where the user's files are, as far as it is known. -/
structure UserPlaces where
  /-- The directory for settings of all programs. -/
  configHome : Option String := none
  home : Option String := none
  /-- The home directory of the account. -/
  accountHome : Option String := none
  deriving DecidableEq, Repr

/-- The directory for settings of all programs: the given one if its path is absolute, else
one in the home directory. -/
def UserPlaces.configDirectory? (places : UserPlaces) : Option String :=
  (places.configHome.filter Path.isAbsolute).or
    (((places.home.filter fun home => !home.isEmpty).or places.accountHome).map
      (Path.join · ".config"))

namespace Settings

/-- Where the settings file is. -/
def path (places : UserPlaces) : Except SettingsError String :=
  match places.configDirectory? with
  | some directory => .ok (Path.join (Path.join directory Program.name) "settings.json")
  | none => .error .noPlace

/-- The text of a file. -/
def fileText (files : FileTree) (path : String) : Except ReadFault (List Char) :=
  match files.read path with
  | .error fault => .error (.file fault)
  | .ok content =>
    match (Text.Raw.ofBytes content).chars? with
    | some text => .ok text
    | none => .error .notUnicode

/-- The settings of a file. -/
def load (files : FileTree) (path : String) : Except SettingsError Settings :=
  if !files.contains path then .ok {}
  else
    match fileText files path with
    | .error fault => .error (.read path fault)
    | .ok text =>
      match read text with
      | .error fault => .error (.parse fault.cause (fault.position text))
      | .ok settings => .ok settings.clamp

/-- What loading notes. -/
def loadNotes (files : FileTree) (path : String) : List Note :=
  if !files.contains path then
    [⟨.debug, "Settings file " ++ Text.quoted path ++ " not found, using defaults"⟩]
  else
    match load files path with
    | .ok _ => [⟨.info, "Loaded settings from " ++ Text.quoted path⟩]
    | .error _ => []

/-- Saves the settings: the files afterwards, and how it went. Directories that were made
stay, even if the file cannot be written. -/
def save (settings : Settings) (files : FileTree) (path : String) :
    FileTree × Except SettingsError Unit :=
  let directory := (Path.parent? path).getD ""
  match files.makeDirectories directory with
  | .error fault => (files, .error (.makeDirectory directory fault))
  | .ok files =>
    match settings.write? with
    | none => (files, .error .unwritablePath)
    | some text =>
      match files.write path (String.ofList text).toUTF8.toList with
      | .error fault => (files, .error (.write path fault))
      | .ok files => (files, .ok ())

/-- What saving notes. -/
def saveNotes (settings : Settings) (files : FileTree) (path : String) : List Note :=
  match (settings.save files path).2 with
  | .ok () => [⟨.info, "Saved settings to " ++ Text.quoted path⟩]
  | .error _ => []

end Settings

end Flowmeter
