/-! What can stop packet capture. -/
namespace Flowmeter

/-- What stops a capture backend. -/
inductive CaptureError
  | openDevice (device reason : String)
  | linkType (found expected : Int)
  | read (reason : String)
  deriving DecidableEq, Repr

def CaptureError.message : CaptureError → String
  | openDevice device reason => "cannot open capture device " ++ device ++ ": " ++ reason
  | linkType found expected =>
    "link type " ++ toString found ++ " not supported, only LINUX_SLL (" ++ toString expected ++
      ") is"
  | read reason => "capture read failed: " ++ reason

/-- How a capture thread can end badly. -/
inductive CaptureFailure
  | failed (error : CaptureError)
  | panicked
  deriving DecidableEq, Repr

def CaptureFailure.message : CaptureFailure → String
  | failed error => error.message
  | panicked => "Capture thread panicked"

/-- Why there is no capture backend. -/
inductive BackendError
  | unknown (name : String)
  | noneBuilt
  deriving DecidableEq, Repr

def BackendError.message : BackendError → String
  | unknown name => "Unknown capture backend: " ++ name
  | noneBuilt => "No capture backend compiled in"

/-- The outcome of asking for a capture backend, by name or for the default one. No backend
is built in, so none is known by any name. -/
def openBackend (name? : Option String) (_device : String) : Except BackendError Unit :=
  match name? with
  | some name => .error (.unknown name)
  | none => .error .noneBuilt

end Flowmeter
