import SerialBus.Device.Transfer

/-! The standard requests that every device answers, sent with the device's default timeout. -/

namespace SerialBus

/-- What a standard request addresses. -/
inductive RequestTarget
  | device
  | interface (number : UInt8)
  | endpoint (address : UInt8)
  deriving DecidableEq, Repr, Inhabited

namespace RequestTarget

def recipient : RequestTarget → Recipient
  | device => .device
  | interface _ => .interface
  | endpoint _ => .endpoint

/-- The index field of a request to the target. -/
def index : RequestTarget → UInt16
  | device => 0
  | interface number => number.toUInt16
  | endpoint address => address.toUInt16

end RequestTarget

namespace Device

variable {σ : Type} [Backend σ]

/-- The feature selector of a halted endpoint. -/
def endpointHalt : UInt16 := 0

def standardRequest (direction : Direction) (recipient : Recipient) (request : UInt8)
    (value index : UInt16) (data : ControlData) : DeviceAction σ Transferred :=
  let requestType := requestType direction .standard recipient
  controlTransfer { requestType, request, value, index } data none

/-- A standard request whose reply must have at least `length` bytes. -/
def readExact (recipient : Recipient) (request : UInt8) (index : UInt16) (length : Nat) :
    DeviceAction σ (List UInt8) := do
  let data ← liftResult
    (← standardRequest .toHost recipient request 0 index (.length length)).toData
  if data.length < length then throw (.transport .shortReply none)
  return data

/-- The status word of the target. -/
def getStatus (target : RequestTarget) : DeviceAction σ UInt16 := do
  let data ← readExact target.recipient 0x00 target.index 2
  return (data.getD 0 0).toUInt16 ||| ((data.getD 1 0).toUInt16 <<< 8)

/-- Clears a feature; the halt of an endpoint is cleared by the backend, on both sides. -/
def clearFeature (feature : UInt16) (target : RequestTarget) : DeviceAction σ Unit := do
  let send : DeviceAction σ Unit := do
    let _ ← standardRequest .toDevice target.recipient 0x01 feature target.index .none
  match target with
  | .endpoint address => if feature = endpointHalt then clearHalt address else send
  | _ => send

def setFeature (feature : UInt16) (target : RequestTarget) : DeviceAction σ Unit := do
  let _ ← standardRequest .toDevice target.recipient 0x03 feature target.index .none

/-- The value field of a request for a descriptor: its type above its index. -/
def descriptorSelector (type index : UInt8) : UInt16 := index.toUInt16 ||| (type.toUInt16 <<< 8)

/-- At most `size` bytes of a descriptor. -/
def getDescriptor (size : Nat) (type index : UInt8) (wIndex : UInt16) :
    DeviceAction σ (List UInt8) := do
  liftResult (← standardRequest .toHost .device 0x06 (descriptorSelector type index) wIndex
    (.length size)).toData

def setDescriptor (data : List UInt8) (type index : UInt8) (wIndex : UInt16) :
    DeviceAction σ Unit := do
  let _ ← standardRequest .toDevice .device 0x07 (descriptorSelector type index) wIndex
    (.bytes data)

/-- The configuration value that the device itself reports. -/
def reportedConfiguration : DeviceAction σ UInt8 := do
  return (← readExact .device 0x08 0 1).getD 0 0

/-- The alternate setting that the device itself reports for an interface. -/
def reportedAlternate (interface : UInt8) : DeviceAction σ UInt8 := do
  return (← readExact .interface 0x0A interface.toUInt16 1).getD 0 0

end Device

end SerialBus
