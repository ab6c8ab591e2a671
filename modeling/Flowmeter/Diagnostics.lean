/-! Notes that the program leaves for whoever runs it.

What a step notes is a function of the step beside the function that carries it
out, so notes never take part in results. -/
namespace Flowmeter

/-- How much a note matters. -/
inductive Level
  | error
  | warn
  | info
  | debug
  deriving DecidableEq, Repr

def Level.name : Level → String
  | error => "ERROR"
  | warn => "WARN"
  | info => "INFO"
  | debug => "DEBUG"

structure Note where
  level : Level
  message : String
  deriving DecidableEq, Repr

end Flowmeter
