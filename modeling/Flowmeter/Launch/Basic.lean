import Flowmeter.Capture.Error
import Flowmeter.CommandLine.Reader
import Flowmeter.Settings.File

/-! Starting the program.

What the command line asks for wins over the settings file, and that wins over the
defaults. Settings are saved if that is asked for; then the capture backend is opened. -/
namespace Flowmeter

/-- Why the program could not start. -/
inductive LaunchError
  | settings (error : SettingsError)
  | capture (device : String) (error : BackendError)
  deriving DecidableEq, Repr

namespace LaunchError

def message : LaunchError → String
  | settings error => error.message
  | capture device _ => "Failed to start capture on " ++ device

/-- What lies behind the error. -/
def cause? : LaunchError → Option String
  | settings error => error.cause?
  | capture _ error => some error.message

/-- The error and what lies behind it, in one line. -/
def chain (error : LaunchError) : String :=
  error.message ++
    match error.cause? with
    | some cause => ": " ++ cause
    | none => ""

/-- The error and what lies behind it, as the program ends with them. -/
def report (error : LaunchError) : String :=
  "Error: " ++ error.message ++
    (match error.cause? with
      | some cause => "\n\nCaused by:\n    " ++ cause
      | none => "") ++ "\n"

end LaunchError

namespace Launch

/-- The settings of the file, or the defaults if they cannot be loaded. -/
def storedSettings (places : UserPlaces) (files : FileTree) : Settings :=
  match Settings.path places >>= Settings.load files with
  | .ok settings => settings
  | .error _ => {}

/-- The settings the program goes on with. -/
def settings (arguments : CommandLine.Arguments) (places : UserPlaces) (files : FileTree) :
    Settings :=
  arguments.apply (storedSettings places files)

/-- What the program leaves behind. -/
structure Outcome where
  files : FileTree
  output : String := ""
  result : Except LaunchError Unit

/-- Opens the capture backend on a device. -/
def openCapture (device : String) : Except LaunchError Unit :=
  match openBackend none device with
  | .ok () => .ok ()
  | .error error => .error (.capture device error)

/-- Starts the program. -/
def start (arguments : CommandLine.Arguments) (places : UserPlaces) (files : FileTree) :
    Outcome :=
  let settings := settings arguments places files
  let opened := openCapture settings.device
  if arguments.saveSettings then
    match Settings.path places with
    | .error error => { files, result := .error (.settings error) }
    | .ok path =>
      match settings.save files path with
      | (files, .error error) => { files, result := .error (.settings error) }
      | (files, .ok ()) =>
        { files, output := "Saved settings to " ++ path ++ "\n", result := opened }
  else { files, result := opened }

/-- What the start notes. -/
def startNotes (arguments : CommandLine.Arguments) (places : UserPlaces) (files : FileTree) :
    List Note :=
  match Settings.path places with
  | .error error => [⟨.warn, "Failed to load settings, using defaults: " ++ error.message⟩]
  | .ok path =>
    (match Settings.load files path with
      | .ok _ => Settings.loadNotes files path
      | .error error =>
        let cause := match error.cause? with
          | some cause => ": " ++ cause
          | none => ""
        [⟨.warn, "Failed to load settings, using defaults: " ++ error.message ++ cause⟩]) ++
      if arguments.saveSettings then
        (settings arguments places files).saveNotes files path
      else []

end Launch

/-- What a run of the program shows and leaves. -/
structure ProgramRun where
  code : UInt32
  output : String := ""
  errors : String := ""
  files : FileTree

/-- Runs the program with these words on its command line. -/
def Launch.run (words : List Text.Raw) (places : UserPlaces) (files : FileTree) : ProgramRun :=
  match CommandLine.Arguments.read words with
  | .error refusal =>
    if refusal.isError then { code := 2, errors := refusal.text, files }
    else { code := 0, output := refusal.text, files }
  | .ok arguments =>
    let outcome := Launch.start arguments places files
    match outcome.result with
    | .ok () => { code := 0, output := outcome.output, files := outcome.files }
    | .error error =>
      { code := 1, output := outcome.output, errors := error.report, files := outcome.files }

end Flowmeter
