import SerialBus.Backend.Basic
import SerialBus.Descriptor.Field

/-!
What a backend uses of libusb: the errors, the decoded fields of descriptors, and the calls. Any
library may stand behind them.
-/

namespace SerialBus.Native

/-- The named failure codes of the library; `other` stands for all the rest. -/
inductive Failure
  | io
  | invalidParam
  | access
  | noDevice
  | notFound
  | busy
  | timeout
  | overflow
  | pipe
  | interrupted
  | noMem
  | notSupported
  | badDescriptor
  | other
  deriving DecidableEq, Repr, Inhabited

namespace Failure

def all : List Failure :=
  [io, invalidParam, access, noDevice, notFound, busy, timeout, overflow, pipe, interrupted, noMem,
   notSupported, badDescriptor, other]

def name : Failure → String
  | io => "Io"
  | invalidParam => "InvalidParam"
  | access => "Access"
  | noDevice => "NoDevice"
  | notFound => "NotFound"
  | busy => "Busy"
  | timeout => "Timeout"
  | overflow => "Overflow"
  | pipe => "Pipe"
  | interrupted => "Interrupted"
  | noMem => "NoMem"
  | notSupported => "NotSupported"
  | badDescriptor => "BadDescriptor"
  | other => "Other"

def ofName? (s : String) : Option Failure := all.find? (·.name == s)

/-- The failure as an error of a backend, which knows the codes down to -12. -/
def toError : Failure → UsbError
  | io => .transport .io (some (-1))
  | invalidParam => .transport .invalidParam (some (-2))
  | access => .transport .access (some (-3))
  | noDevice => .transport .noDevice (some (-4))
  | notFound => .transport .notFound (some (-5))
  | busy => .transport .busy (some (-6))
  | timeout => .transport .timeout (some (-7))
  | overflow => .transport .overflow (some (-8))
  | pipe => .transport .pipe (some (-9))
  | interrupted => .transport .interrupted (some (-10))
  | noMem => .transport .noMemory (some (-11))
  | notSupported => .transport .notSupported (some (-12))
  | badDescriptor | other => .transport .other (some (-99))

end Failure

inductive SyncType
  | noSync
  | asynchronous
  | adaptive
  | synchronous
  deriving DecidableEq, Repr, Inhabited

inductive UsageType
  | data
  | feedback
  | feedbackData
  | reserved
  deriving DecidableEq, Repr, Inhabited

/-- A release number as the library splits it: the two upper digits are one number. -/
structure Release where
  major : UInt8
  minor : UInt8
  patch : UInt8
  deriving DecidableEq, Repr, Inhabited

/-! Descriptors as the library hands them out: the parts of an endpoint's attributes, the flags of a
configuration, its maximum power in mA, and string indices where there are any. -/

namespace Decoded

structure Endpoint where
  address : UInt8
  transferType : TransferType
  syncType : SyncType
  usageType : UsageType
  maxPacketSize : UInt16
  interval : UInt8
  deriving DecidableEq, Repr, Inhabited

/-- One alternate setting of an interface. -/
structure Alternate where
  number : UInt8
  alternate : UInt8
  numEndpoints : UInt8
  interfaceClass : UInt8
  interfaceSubclass : UInt8
  interfaceProtocol : UInt8
  descriptionIndex? : Option UInt8
  endpoints : List Endpoint
  deriving DecidableEq, Repr, Inhabited

structure Configuration where
  value : UInt8
  numInterfaces : UInt8
  selfPowered : Bool
  remoteWakeup : Bool
  maxPowerMilliamps : UInt16
  descriptionIndex? : Option UInt8
  /-- The alternate settings of each interface. -/
  interfaces : List (List Alternate)
  deriving DecidableEq, Repr, Inhabited

structure Device where
  usbVersion : Release
  deviceVersion : Release
  deviceClass : UInt8
  deviceSubclass : UInt8
  deviceProtocol : UInt8
  maxPacketSize0 : UInt8
  vendorId : UInt16
  productId : UInt16
  manufacturerIndex? : Option UInt8
  productIndex? : Option UInt8
  serialNumberIndex? : Option UInt8
  numConfigurations : UInt8
  deriving DecidableEq, Repr, Inhabited

end Decoded

/-- What a call that reads leaves in a buffer of zeros. -/
structure Filled where
  /-- The number of bytes that the call reports. -/
  count : Nat
  /-- The bytes that it has put at the front of the buffer. -/
  bytes : List UInt8
  deriving DecidableEq, Repr, Inhabited

/-- As many bytes of a buffer of the length as the call reports, all of them if it reports more. -/
def Filled.front (f : Filled) (length : Nat) : List UInt8 :=
  let count := min f.count length
  f.bytes.take count ++ List.replicate (count - f.bytes.length) 0

/-- A call on an open handle, by the type of what it returns. -/
inductive HandleCall : Type → Type
  | setConfiguration (value : UInt8) : HandleCall Unit
  | configuration : HandleCall UInt8
  | claimInterface (number : UInt8) : HandleCall Unit
  | releaseInterface (number : UInt8) : HandleCall Unit
  | setAlternate (number alternate : UInt8) : HandleCall Unit
  | writeBulk (endpoint : UInt8) (data : List UInt8) (timeout : Nat) : HandleCall Nat
  | readBulk (endpoint : UInt8) (length timeout : Nat) : HandleCall Filled
  | writeInterrupt (endpoint : UInt8) (data : List UInt8) (timeout : Nat) : HandleCall Nat
  | readInterrupt (endpoint : UInt8) (length timeout : Nat) : HandleCall Filled
  | writeControl (setup : Setup) (data : List UInt8) (timeout : Nat) : HandleCall Nat
  | readControl (setup : Setup) (length timeout : Nat) : HandleCall Filled
  | reset : HandleCall Unit
  | kernelDriverActive (number : UInt8) : HandleCall Bool
  | detachKernelDriver (number : UInt8) : HandleCall Unit
  | attachKernelDriver (number : UInt8) : HandleCall Unit
  | clearHalt (endpoint : UInt8) : HandleCall Unit

/-- The devices that a library lists say where they are attached. -/
class Located (D : Type) where
  bus : D → UInt8
  address : D → UInt8
  port : D → UInt8

/--
A library with states `L`, whose listed devices are in `D` and whose open handles are in `H`. A call
on a handle acts on the state of the handle together with that of the library; closing a handle
cannot fail.
-/
class Libusb (L : Type) (D H : outParam Type) where
  init : EStateM Failure L Unit
  devices : EStateM Failure L (List D)
  deviceDescriptor : D → EStateM Failure L Decoded.Device
  configDescriptor : D → (config : UInt8) → EStateM Failure L Decoded.Configuration
  openDevice : D → EStateM Failure L H
  closeDevice : H → L → L
  onHandle {α : Type} : HandleCall α → EStateM Failure (L × H) α

end SerialBus.Native
