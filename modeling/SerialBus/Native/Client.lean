import SerialBus.Native.Libusb
import SerialBus.Table

/-!
The backend on libusb. A device is known by its place, and the same place keeps the same number
from one enumeration to the next; handles are numbered in the order in which they are opened.
-/

namespace SerialBus.Native

/-- The bus, the address and the port of a device. -/
def place {D : Type} [Located D] (d : D) : UInt8 × UInt8 × UInt8 :=
  (Located.bus d, Located.address d, Located.port d)

theorem place_eq_iff {D : Type} [Located D] {d e : D} : place d = place e ↔
    Located.bus d = Located.bus e ∧ Located.address d = Located.address e ∧
      Located.port d = Located.port e := by
  simp [place]

/-- What one user of the library keeps. -/
structure Context (D H : Type) where
  /-- The number that each place was given, the latest first. -/
  positions : List ((UInt8 × UInt8 × UInt8) × DeviceId) := []
  /-- The devices of the last enumeration. -/
  known : Table DeviceId D := ∅
  lastId : Nat := 0
  handles : Table HandleId H := ∅
  nextHandle : Nat := 1
  deriving DecidableEq, Inhabited

namespace Context

variable {D H : Type} [Located D]

/-- Adds an enumerated device, under the number of its place or under a new one. -/
def register (c : Context D H) (d : D) : Context D H × DeviceId :=
  match c.positions.lookup (place d) with
  | some id => ({ c with known := c.known.insert id d }, id)
  | none =>
    let id : DeviceId := ⟨c.lastId + 1⟩
    ({ c with
        positions := (place d, id) :: c.positions
        known := c.known.insert id d
        lastId := c.lastId + 1 }, id)

def registerAll (c : Context D H) : List D → Context D H × List DeviceId
  | [] => (c, [])
  | d :: rest =>
    let (c, id) := c.register d
    let (c, ids) := c.registerAll rest
    (c, id :: ids)

end Context

/-! Descriptors, put together again from what the library decodes. -/

/-- The number as the descriptor has it, a digit in each half of a byte. -/
def Release.toBcd (r : Release) : UInt16 :=
  let major := r.major.toUInt16
  ((major / 10) <<< 12) ||| ((major % 10) <<< 8) ||| ((r.minor.toUInt16 &&& 0x0F) <<< 4) |||
    (r.patch.toUInt16 &&& 0x0F)

def SyncType.code : SyncType → UInt8
  | .noSync => 0
  | .asynchronous => 1
  | .adaptive => 2
  | .synchronous => 3

def UsageType.code : UsageType → UInt8
  | .data => 0
  | .feedback => 1
  | .feedbackData => 2
  | .reserved => 3

namespace Decoded

def Endpoint.attributes (e : Endpoint) : UInt8 :=
  e.transferType.code ||| (e.syncType.code <<< 2) ||| (e.usageType.code <<< 4)

def Endpoint.descriptor (e : Endpoint) : EndpointDescriptor where
  endpointAddress := e.address
  attributes := e.attributes
  maxPacketSize := e.maxPacketSize
  interval := e.interval

def Alternate.descriptor (a : Alternate) : InterfaceDescriptor where
  interfaceNumber := a.number
  alternateSetting := a.alternate
  numEndpoints := a.numEndpoints
  interfaceClass := a.interfaceClass
  interfaceSubclass := a.interfaceSubclass
  interfaceProtocol := a.interfaceProtocol
  stringIndex := a.descriptionIndex?.getD 0

/-- The attributes of a configuration; bit 7 is always set. -/
def Configuration.attributes (c : Configuration) : UInt8 :=
  0x80 ||| (if c.selfPowered then 0x40 else 0) ||| (if c.remoteWakeup then 0x20 else 0)

/-- The bytes of the standard descriptors of a configuration. -/
def Configuration.wireLength (c : Configuration) : UInt16 :=
  c.interfaces.foldl (fun total alternates =>
    alternates.foldl (fun total a => total + 9 + 7 * a.numEndpoints.toUInt16) total) 9

def Configuration.descriptor (c : Configuration) : ConfigurationDescriptor where
  totalLength := c.wireLength
  numInterfaces := c.numInterfaces
  configurationValue := c.value
  stringIndex := c.descriptionIndex?.getD 0
  attributes := c.attributes
  maxPower := (min (c.maxPowerMilliamps / 2) 255).toUInt8

/-- The descriptor of a device that is attached to the bus, with the address, at the port. -/
def Device.descriptor (d : Device) (bus address port : UInt8) : DeviceDescriptor where
  usbVersion := d.usbVersion.toBcd
  deviceClass := d.deviceClass
  deviceSubclass := d.deviceSubclass
  deviceProtocol := d.deviceProtocol
  maxPacketSize0 := d.maxPacketSize0
  vendorId := d.vendorId
  productId := d.productId
  deviceVersion := d.deviceVersion.toBcd
  manufacturerIndex := d.manufacturerIndex?.getD 0
  productIndex := d.productIndex?.getD 0
  serialNumberIndex := d.serialNumberIndex?.getD 0
  numConfigurations := d.numConfigurations
  bus := some bus
  address := some address
  portNumber := some port

end Decoded

/-- The library and one of its users. -/
structure Client (L D H : Type) where
  library : L
  context : Context D H
  deriving DecidableEq

namespace Client

variable {L D H : Type} [Located D] [Libusb L D H] {α : Type}

/-- A call of the library. -/
def ask (act : EStateM Failure L α) : Action (Client L D H) α := fun c =>
  match act c.library with
  | .ok a library => .ok a { c with library }
  | .error e library => .error e.toError { c with library }

/-- What is done with a device of the last enumeration. -/
def withDevice (id : DeviceId) (f : D → Action (Client L D H) α) : Action (Client L D H) α := fun c =>
  match c.context.known.get? id with
  | some d => f d c
  | none => .error Failure.noDevice.toError c

/-- The client after a call on a handle. -/
def putBack (c : Client L D H) (h : HandleId) (left : L × H) : Client L D H where
  library := left.1
  context := { c.context with handles := c.context.handles.insert h left.2 }

/-- A call on an open handle. -/
def withHandle (h : HandleId) (call : HandleCall α) : Action (Client L D H) α := fun c =>
  match c.context.handles.get? h with
  | some handle =>
    match Libusb.onHandle call (c.library, handle) with
    | .ok a left => .ok a (c.putBack h left)
    | .error e left => .error e.toError (c.putBack h left)
  | none => .error Failure.invalidParam.toError c

/-- Begins to use the library, with nothing known yet. -/
def start : Action (Client L D H) Unit := do
  ask Libusb.init
  modify fun c => { c with context := {} }

def enumerate : Action (Client L D H) (List DeviceId) := do
  let devices ← ask Libusb.devices
  let c ← get
  let (context, ids) := Context.registerAll { c.context with known := ∅ } devices
  set { c with context }
  return ids

/-! What is done with a device that was found. -/

def describe (d : D) : Action (Client L D H) DeviceDescriptor := do
  let device ← ask (Libusb.deviceDescriptor d)
  return device.descriptor (Located.bus d) (Located.address d) (Located.port d)

def configurationAt (d : D) (config : UInt8) : Action (Client L D H) Decoded.Configuration := do
  let device ← ask (Libusb.deviceDescriptor d)
  if device.numConfigurations ≤ config then throw (.invalidDescriptorIndex .configuration config)
  ask (Libusb.configDescriptor d config)

def alternateAt (d : D) (interface alternate config : UInt8) :
    Action (Client L D H) Decoded.Alternate := do
  match (← configurationAt d config).interfaces[interface.toNat]? with
  | none => throw (.invalidDescriptorIndex .interface interface)
  | some alternates =>
    match alternates[alternate.toNat]? with
    | none => throw (.invalidDescriptorIndex .alternateSetting alternate)
    | some a => return a

def endpointAt (d : D) (endpoint interface alternate config : UInt8) :
    Action (Client L D H) Decoded.Endpoint := do
  match (← alternateAt d interface alternate config).endpoints[endpoint.toNat]? with
  | none => throw (.invalidDescriptorIndex .endpoint endpoint)
  | some e => return e

/-- Opens the device under the next number. -/
def openHandle (d : D) : Action (Client L D H) HandleId := do
  let handle ← ask (Libusb.openDevice d)
  let number : HandleId := ⟨(← get).context.nextHandle⟩
  modify fun c => { c with context := { c.context with
    handles := c.context.handles.insert number handle
    nextHandle := c.context.nextHandle + 1 } }
  return number

/-- Forgets the handle, which the library then closes. -/
def closeDevice (h : HandleId) : Action (Client L D H) Unit := fun c =>
  match c.context.handles.get? h with
  | some handle => .ok () {
      library := Libusb.closeDevice handle c.library
      context := { c.context with handles := c.context.handles.erase h } }
  | none => .error Failure.invalidParam.toError c

/-- A transfer by one of two calls, as the payload says. -/
def transfer (h : HandleId) (write : List UInt8 → HandleCall Nat) (read : Nat → HandleCall Filled) :
    Payload → Action (Client L D H) Transferred
  | .send data => return .written (← withHandle h (write data))
  | .receive length => return .read ((← withHandle h (read length)).front length)

instance : Backend (Client L D H) where
  name := "libusb1"
  devices := enumerate
  deviceDescriptor id := withDevice id describe
  configurationDescriptor id config := withDevice id fun d => do
    return (← configurationAt d config).descriptor
  interfaceDescriptor id interface alternate config := withDevice id fun d => do
    return (← alternateAt d interface alternate config).descriptor
  endpointDescriptor id endpoint interface alternate config := withDevice id fun d => do
    return (← endpointAt d endpoint interface alternate config).descriptor
  openDevice id := withDevice id openHandle
  closeDevice := closeDevice
  setConfiguration h value := withHandle h (.setConfiguration value)
  configuration h := withHandle h .configuration
  claimInterface h number := withHandle h (.claimInterface number)
  releaseInterface h number := withHandle h (.releaseInterface number)
  setAlternate h number alternate := withHandle h (.setAlternate number alternate)
  bulkTransfer h endpoint _ payload timeout :=
    transfer h (.writeBulk endpoint · timeout) (.readBulk endpoint · timeout) payload
  interruptTransfer h endpoint _ payload timeout :=
    transfer h (.writeInterrupt endpoint · timeout) (.readInterrupt endpoint · timeout) payload
  controlTransfer h setup payload timeout :=
    transfer h (.writeControl setup · timeout) (.readControl setup · timeout) payload
  resetDevice h := withHandle h .reset
  kernelDriverActive h number := withHandle h (.kernelDriverActive number)
  detachKernelDriver h number := withHandle h (.detachKernelDriver number)
  attachKernelDriver h number := withHandle h (.attachKernelDriver number)
  clearHalt h endpoint := withHandle h (.clearHalt endpoint)

end Client

end SerialBus.Native
