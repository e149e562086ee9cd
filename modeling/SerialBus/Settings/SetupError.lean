/-! Failures before any device is reached: of settings, the log and files. -/

namespace SerialBus

inductive SetupError
  | configuration (reason : String)
  | logging (reason : String)
  | io (reason : String)
  | other (reason : String)
  deriving DecidableEq, Repr, Inhabited

def SetupError.message : SetupError → String
  | .configuration reason => s!"Configuration error: {reason}"
  | .logging reason => s!"Logging error: {reason}"
  | .io reason => s!"IO error: {reason}"
  | .other reason => s!"Other error: {reason}"

end SerialBus
