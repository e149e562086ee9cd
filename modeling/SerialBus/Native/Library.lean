import SerialBus.Native.Accessors
import SerialBus.Native.Client
import SerialBus.Text.Digits

/-!
A simulated libusb: its functions leave a line in a log, fail with a code on demand, and act on the
state of a handle.
-/

namespace SerialBus.Native

/-- The functions of the library that can be made to fail. -/
inductive Function
  | init
  | getDeviceList
  | getDeviceDescriptor
  | getConfigDescriptor
  | openDevice
  | getConfiguration
  | setConfiguration
  | claimInterface
  | releaseInterface
  | setInterfaceAltSetting
  | clearHalt
  | resetDevice
  | kernelDriverActive
  | detachKernelDriver
  | attachKernelDriver
  | controlTransfer
  | bulkTransfer
  | interruptTransfer
  deriving DecidableEq, Repr, Inhabited

namespace Function

def all : List Function :=
  [init, getDeviceList, getDeviceDescriptor, getConfigDescriptor, openDevice, getConfiguration,
   setConfiguration, claimInterface, releaseInterface, setInterfaceAltSetting, clearHalt,
   resetDevice, kernelDriverActive, detachKernelDriver, attachKernelDriver, controlTransfer,
   bulkTransfer, interruptTransfer]

def name : Function → String
  | init => "init"
  | getDeviceList => "get_device_list"
  | getDeviceDescriptor => "get_device_descriptor"
  | getConfigDescriptor => "get_config_descriptor"
  | openDevice => "open"
  | getConfiguration => "get_configuration"
  | setConfiguration => "set_configuration"
  | claimInterface => "claim_interface"
  | releaseInterface => "release_interface"
  | setInterfaceAltSetting => "set_interface_alt_setting"
  | clearHalt => "clear_halt"
  | resetDevice => "reset_device"
  | kernelDriverActive => "kernel_driver_active"
  | detachKernelDriver => "detach_kernel_driver"
  | attachKernelDriver => "attach_kernel_driver"
  | controlTransfer => "control_transfer"
  | bulkTransfer => "bulk_transfer"
  | interruptTransfer => "interrupt_transfer"

def ofName? (s : String) : Option Function := all.find? (·.name == s)

instance : Ranked Function :=
  ⟨Function.ctorIdx, fun {a b} h => by cases a <;> cases b <;> first | rfl | cases h⟩

end Function

def Failure.ofCode (code : Int) : Failure :=
  if code = -1 then .io
  else if code = -2 then .invalidParam
  else if code = -3 then .access
  else if code = -4 then .noDevice
  else if code = -5 then .notFound
  else if code = -6 then .busy
  else if code = -7 then .timeout
  else if code = -8 then .overflow
  else if code = -9 then .pipe
  else if code = -10 then .interrupted
  else if code = -11 then .noMem
  else if code = -12 then .notSupported
  else .other

/-- The library's own state: what is attached, what is made to fail, and what was called. -/
structure Library where
  attached : List Device := []
  failures : Table Function Int := ∅
  /-- The lines of the log, the last one first. -/
  log : List String := []
  deriving DecidableEq

/-- An open handle. -/
structure Handle where
  device : Device
  active : UInt8
  claimed : ByteSet
  kernelDrivers : ByteSet
  controlBuffer : List UInt8
  /-- The bytes queued for each endpoint number. -/
  pipes : Table UInt8 (List UInt8)
  deriving DecidableEq

def Handle.ofDevice (device : Device) : Handle where
  device
  active := device.active
  claimed := ∅
  kernelDrivers := device.kernelDrivers
  controlBuffer := []
  pipes := ∅

namespace Library

def write (l : Library) (line : String) : Library := { l with log := line :: l.log }

/-- The code that a function is made to return, 0 if none. -/
def code (l : Library) (f : Function) : Int := (l.failures.get? f).getD 0

end Library

/-- The setup of a control transfer as it stands in the log. -/
def setupText (s : Setup) : String :=
  s!"control {Text.hexByte s.requestType} {Text.hexByte s.request} " ++
    s!"{Text.hex 4 s.value.toNat} {Text.hex 4 s.index.toNat}"

namespace Handle

/-- The bytes queued for an endpoint number. -/
def queue (h : Handle) (number : UInt8) : List UInt8 := (h.pipes.get? number).getD []

/-- Where the device is attached, as it stands in the log. -/
def place (h : Handle) : String := s!"{h.device.bus}.{h.device.address}"

/-- The reply to a control request from device to host, before it is cut to the length asked for. -/
def controlReply (h : Handle) (s : Setup) : Except Failure (List UInt8) :=
  if s.requestType = 0x80 ∧ s.request = 6 then
    if (s.value >>> 8).toUInt8 = 3 then
      match h.device.strings[(s.value &&& 0xFF).toNat]? with
      | some reply => .ok reply
      | none => .error .pipe
    else .error .pipe
  else if s.requestType = 0x80 ∧ s.request = 8 then .ok [h.active]
  else .ok h.controlBuffer

/-- Appends the data to the queue of an endpoint's number. -/
def send (h : Handle) (endpoint : UInt8) (data : List UInt8) : Handle :=
  let number := endpointNumber endpoint
  { h with pipes := h.pipes.insert number (h.queue number ++ data) }

/-- Takes at most `length` bytes from the queue of an endpoint's number. -/
def receive (h : Handle) (endpoint : UInt8) (length : Nat) :
    Except Failure (List UInt8 × Handle) :=
  let number := endpointNumber endpoint
  let queue := h.queue number
  if queue.isEmpty ∧ 0 < length then .error .timeout
  else .ok (queue.take length, { h with pipes := h.pipes.insert number (queue.drop length) })

end Handle

namespace Library

/-- Fails with the code that the function is made to return, if there is one. -/
def check (f : Function) : EStateM Failure Library Unit := do
  let code := (← get).code f
  if code ≠ 0 then throw (.ofCode code)

def configDescriptor (d : Device) (config : UInt8) :
    EStateM Failure Library Decoded.Configuration := do
  check .getConfigDescriptor
  match d.configurations[config.toNat]? with
  | some c => return c.decoded
  | none => throw .notFound

def openDevice (d : Device) : EStateM Failure Library Handle := do
  let h := Handle.ofDevice d
  modify fun l => l.write s!"open {h.place}"
  check .openDevice
  return h

/-- Gives back what the handle has claimed and closes it. -/
def closeDevice (h : Handle) (l : Library) : Library :=
  (h.claimed.keys.foldl (fun l n => l.write s!"release_interface {n}") l).write s!"close {h.place}"

/-- A function on a handle; `forced` is the outcome of a code that it is made to return. -/
def call {α : Type} (f : Function) (line : String) (forced : Int → Except Failure α)
    (act : Handle → Except Failure (α × Handle)) : EStateM Failure (Library × Handle) α :=
  fun (l, h) =>
    let written := l.write line
    if l.code f ≠ 0 then
      match forced (l.code f) with
      | .ok a => .ok a (written, h)
      | .error e => .error e (written, h)
    else
      match act h with
      | .ok (a, h) => .ok a (written, h)
      | .error e => .error e (written, h)

/-- Any forced code is a failure. -/
def fails {α : Type} (code : Int) : Except Failure α := .error (.ofCode code)

/-- A forced code that is no failure counts as the number of bytes moved. -/
def forcedCount {α : Type} (moved : Nat → α) (code : Int) : Except Failure α :=
  if 0 ≤ code then .ok (moved code.toNat) else .error (.ofCode code)

/-- The length of a data stage as the library counts it, in signed 32-bit numbers. -/
def dataLength (n : Nat) : Int := Int.bmod n 0x100000000

/-- The data at the front of a buffer, all of it reported. -/
def filledWith (data : List UInt8) : Filled := ⟨data.length, data⟩

/-- Sends data on an endpoint, whose address must have the direction to the device. -/
def writeData (f : Function) (endpoint : UInt8) (data : List UInt8) (timeout : Nat) :
    EStateM Failure (Library × Handle) Nat :=
  match endpointDirection endpoint with
  | .toHost => throw .invalidParam
  | .toDevice =>
    let bytes := String.join (data.map Text.hexByte)
    call f s!"{f.name} {Text.hexByte endpoint} out {bytes} {timeout}" fails fun h =>
      .ok (data.length, h.send endpoint data)

/-- Receives data on an endpoint, whose address must have the direction to the host. -/
def readData (f : Function) (endpoint : UInt8) (length timeout : Nat) :
    EStateM Failure (Library × Handle) Filled :=
  match endpointDirection endpoint with
  | .toDevice => throw .invalidParam
  | .toHost =>
    let length := dataLength length
    call f s!"{f.name} {Text.hexByte endpoint} in {length} {timeout}" fails fun h => do
      let (data, h) ← h.receive endpoint length.toNat
      return (filledWith data, h)

/-- A control transfer that sends data; its length field has 16 bits. -/
def writeControl (setup : Setup) (data : List UInt8) (timeout : Nat) :
    EStateM Failure (Library × Handle) Nat :=
  match requestDirection setup.requestType with
  | .toHost => throw .invalidParam
  | .toDevice =>
    let data := data.take (data.length % 65536)
    call .controlTransfer s!"{setupText setup} {data.length} {timeout}" (forcedCount fun n => n)
      fun h => .ok (data.length, { h with controlBuffer := data })

/-- A control transfer that receives data; its length field has 16 bits. -/
def readControl (setup : Setup) (length timeout : Nat) :
    EStateM Failure (Library × Handle) Filled :=
  match requestDirection setup.requestType with
  | .toDevice => throw .invalidParam
  | .toHost =>
    let counted := length % 65536
    call .controlTransfer s!"{setupText setup} {counted} {timeout}" (forcedCount fun n => ⟨n, []⟩)
      fun h => do
        let reply ← h.controlReply setup
        return (filledWith (reply.take counted), h)

def onHandle {α : Type} : HandleCall α → EStateM Failure (Library × Handle) α
  | .setConfiguration value =>
    call .setConfiguration s!"set_configuration {value}" fails fun h =>
      if value = 0 ∨ h.device.configurations.any (·.value == value) then
        .ok ((), { h with active := value })
      else .error .notFound
  | .configuration =>
    call .getConfiguration "get_configuration" fails fun h => .ok (h.active, h)
  | .claimInterface number =>
    call .claimInterface s!"claim_interface {number}" fails fun h =>
      .ok ((), { h with claimed := h.claimed.add number })
  | .releaseInterface number =>
    call .releaseInterface s!"release_interface {number}" fails fun h =>
      if h.claimed.contains number then .ok ((), { h with claimed := h.claimed.erase number })
      else .error .notFound
  | .setAlternate number alternate =>
    call .setInterfaceAltSetting s!"set_interface_alt_setting {number} {alternate}" fails fun h =>
      if h.claimed.contains number then .ok ((), h) else .error .notFound
  | .writeBulk endpoint data timeout => writeData .bulkTransfer endpoint data timeout
  | .readBulk endpoint length timeout => readData .bulkTransfer endpoint length timeout
  | .writeInterrupt endpoint data timeout => writeData .interruptTransfer endpoint data timeout
  | .readInterrupt endpoint length timeout => readData .interruptTransfer endpoint length timeout
  | .writeControl setup data timeout => writeControl setup data timeout
  | .readControl setup length timeout => readControl setup length timeout
  | .reset =>
    call .resetDevice "reset_device" fails fun h =>
      .ok ((), { h with pipes := ∅, controlBuffer := [] })
  | .kernelDriverActive number =>
    call .kernelDriverActive s!"kernel_driver_active {number}"
      (fun code => if code = 1 then .ok true else fails code) fun h =>
        .ok (h.kernelDrivers.contains number, h)
  | .detachKernelDriver number =>
    call .detachKernelDriver s!"detach_kernel_driver {number}" fails fun h =>
      if h.kernelDrivers.contains number then
        .ok ((), { h with kernelDrivers := h.kernelDrivers.erase number })
      else .error .notFound
  | .attachKernelDriver number =>
    call .attachKernelDriver s!"attach_kernel_driver {number}" fails fun h =>
      if h.kernelDrivers.contains number then .error .busy
      else .ok ((), { h with kernelDrivers := h.kernelDrivers.add number })
  | .clearHalt endpoint =>
    call .clearHalt s!"clear_halt {Text.hexByte endpoint}" fails fun h => .ok ((), h)

instance : Libusb Library Device Handle where
  init := check .init
  devices := do
    check .getDeviceList
    return (← get).attached
  deviceDescriptor d := do
    check .getDeviceDescriptor
    return d.decoded
  configDescriptor := configDescriptor
  openDevice := openDevice
  closeDevice := closeDevice
  onHandle := onHandle

end Library

/-- The backend on the simulated library. -/
abbrev Bus : Type := Client Library Device Handle

/-- Begins to use the library. -/
def Bus.start : Action Bus Unit := Client.start

end SerialBus.Native
