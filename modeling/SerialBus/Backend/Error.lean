import SerialBus.Text.Digits

/-! The failures of operations on devices, with their texts. -/

namespace SerialBus

/-- The kinds of failure that a backend reports for input and output. -/
inductive TransportFailure
  | io
  | invalidParam
  | access
  | noDevice
  | notFound
  | busy
  | timeout
  | overflow
  | pipe
  | interrupted
  | noMemory
  | notSupported
  /-- A control reply with fewer bytes than the request needs. -/
  | shortReply
  | other
  deriving DecidableEq, Repr, Inhabited

def TransportFailure.text : TransportFailure → String
  | .io => "input/output error"
  | .invalidParam => "invalid parameter"
  | .access => "access denied"
  | .noDevice => "no such device"
  | .notFound => "entity not found"
  | .busy => "resource busy"
  | .timeout => "operation timed out"
  | .overflow => "overflow"
  | .pipe => "pipe error"
  | .interrupted => "system call interrupted"
  | .noMemory => "insufficient memory"
  | .notSupported => "operation not supported"
  | .shortReply => "short reply"
  | .other => "other error"

/-- The levels of the descriptor tree. -/
inductive DescriptorLevel
  | configuration
  | interface
  | alternateSetting
  | endpoint
  deriving DecidableEq, Repr, Inhabited

def DescriptorLevel.text : DescriptorLevel → String
  | .configuration => "configuration"
  | .interface => "interface"
  | .alternateSetting => "alternate setting"
  | .endpoint => "endpoint"

inductive UsbError
  /-- A failure of the backend, with the backend's own number for it if there is one. -/
  | transport (kind : TransportFailure) (code : Option Int)
  | invalidDescriptorIndex (level : DescriptorLevel) (index : UInt8)
  | invalidConfiguration (value : UInt8)
  | invalidInterface (number : UInt8) (alternate : Option UInt8)
  | configurationNotSet
  | invalidEndpoint (address : UInt8)
  | invalidArgument (reason : String)
  | notSupported (operation : String)
  | noBackendAvailable
  deriving DecidableEq, Repr, Inhabited

namespace UsbError

/-- An alternate setting as `None` or `Some(n)`. -/
def alternateText : Option UInt8 → String
  | none => "None"
  | some n => s!"Some({n})"

def message : UsbError → String
  | .transport kind none => s!"USB transport error: {kind.text}"
  | .transport kind (some code) => s!"USB transport error: {kind.text} (code {code})"
  | .invalidDescriptorIndex level index => s!"Invalid {level.text} index: {index}"
  | .invalidConfiguration value => s!"Invalid configuration value: {value}"
  | .invalidInterface number alternate =>
    s!"Invalid interface {number} (alternate setting {alternateText alternate})"
  | .configurationNotSet => "Configuration not set"
  | .invalidEndpoint address => s!"Invalid endpoint address {Text.hexMarked 2 address.toNat}"
  | .invalidArgument reason => s!"Invalid argument: {reason}"
  | .notSupported operation => s!"Operation not supported by backend: {operation}"
  | .noBackendAvailable => "No backend available"

def isTransport : UsbError → Bool
  | .transport .. => true
  | _ => false

def transportKind? : UsbError → Option TransportFailure
  | .transport kind _ => some kind
  | _ => none

def code? : UsbError → Option Int
  | .transport _ code => code
  | _ => none

def isTimeout (e : UsbError) : Bool := e.transportKind? == some .timeout

end UsbError

end SerialBus
