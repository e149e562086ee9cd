import SerialBus.Device.Holdings

/-! Transfers and the other operations on a device's handle. -/

namespace SerialBus

/-- The data stage of a control transfer as its caller gives it. -/
inductive ControlData
  | none
  | bytes (data : List UInt8)
  | length (n : Nat)
  deriving DecidableEq, Repr, Inhabited

namespace ControlData

def ofText (text : String) : ControlData := .bytes text.toUTF8.data.toList

/-- The payload in a direction; bytes given for a read count as a buffer to fill. -/
def payload : Direction → ControlData → Except UsbError Payload
  | .toDevice, .none => .ok (.send [])
  | .toDevice, .bytes data => .ok (.send data)
  | .toDevice, .length _ =>
    .error (.invalidArgument "host-to-device control transfer needs a payload, not a length")
  | .toHost, .none => .ok (.receive 0)
  | .toHost, .bytes data => .ok (.receive data.length)
  | .toHost, .length n => .ok (.receive n)

end ControlData

namespace Device

variable {σ : Type} [Backend σ]

/-- Sets the default timeout, which must fit in 32 bits. -/
def setDefaultTimeout (ms : Int) : DeviceAction σ Unit := do
  if 0 ≤ ms ∧ ms < 0x100000000 then modifyDevice ({ · with defaultTimeout := ms.toNat })
  else throw (.invalidArgument s!"invalid timeout: {ms} ms")

def timeoutOr (timeout : Option Nat) : DeviceAction σ Nat :=
  return timeout.getD (← getDevice).defaultTimeout

/--
Moves data on an endpoint of the interface that the target names, by the transfer type that its
descriptor declares. The interface is claimed first if it is not.
-/
def transfer (endpoint : UInt8) (payload : Payload) (target : InterfaceTarget)
    (timeout : Option Nat) : DeviceAction σ Transferred := do
  let location ← findInterface target
  let kind ← endpointType endpoint location
  ensureClaimed (.resolved location)
  let h ← openHandle
  let number := location.descriptor.interfaceNumber
  let timeout ← timeoutOr timeout
  match kind with
  | .bulk => onBus (Backend.bulkTransfer h endpoint number payload timeout)
  | .interrupt => onBus (Backend.interruptTransfer h endpoint number payload timeout)
  | .isochronous => onBus (Backend.isochronousTransfer h endpoint number payload timeout)
  | .control =>
    throw (.invalidArgument s!"endpoint {Text.hexMarked 2 endpoint.toNat} is a control endpoint")

/-- Writes to an endpoint of an interface named by number or by default. -/
def write (endpoint : UInt8) (data : List UInt8) (interface : Option UInt8)
    (timeout : Option Nat) : DeviceAction σ Nat := do
  liftResult (← transfer endpoint (.send data) (.ofNumber? interface) timeout).toWritten

/-- Reads at most `length` bytes from an endpoint. -/
def receive (endpoint : UInt8) (length : Nat) (interface : Option UInt8)
    (timeout : Option Nat) : DeviceAction σ (List UInt8) := do
  liftResult (← transfer endpoint (.receive length) (.ofNumber? interface) timeout).toData

/-- A control transfer in the direction of the request type; it claims nothing. -/
def controlTransfer (setup : Setup) (data : ControlData) (timeout : Option Nat) :
    DeviceAction σ Transferred := do
  let payload ← liftResult (data.payload (requestDirection setup.requestType))
  let h ← openHandle
  onBus (Backend.controlTransfer h setup payload (← timeoutOr timeout))

/-- Gives claims back, resets the device and closes the handle; a failure ends the sequence. -/
def reset : DeviceAction σ Unit := do
  let h ← openHandle
  dispose false
  onBus (Backend.resetDevice h)
  dispose true

/-- The handle, and the number of an interface that the active configuration has. -/
def kernelDriverTarget (interface : UInt8) : DeviceAction σ (HandleId × UInt8) := do
  let location ← findInterface (.number interface)
  return (← openHandle, location.descriptor.interfaceNumber)

def kernelDriverActive (interface : UInt8) : DeviceAction σ Bool := do
  let (h, number) ← kernelDriverTarget interface
  onBus (Backend.kernelDriverActive h number)

def detachKernelDriver (interface : UInt8) : DeviceAction σ Unit := do
  let (h, number) ← kernelDriverTarget interface
  onBus (Backend.detachKernelDriver h number)

def attachKernelDriver (interface : UInt8) : DeviceAction σ Unit := do
  let (h, number) ← kernelDriverTarget interface
  onBus (Backend.attachKernelDriver h number)

def clearHalt (endpoint : UInt8) : DeviceAction σ Unit := do
  let h ← openHandle
  onBus (Backend.clearHalt h endpoint)

/-- The bus after the device is put away; a failure is passed over. -/
def drop (d : Device) (bus : σ) : σ :=
  match dispose true ⟨d, bus⟩ with
  | .ok _ s => s.bus
  | .error _ s => s.bus

end Device

end SerialBus
