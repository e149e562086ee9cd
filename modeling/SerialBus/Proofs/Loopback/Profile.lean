import SerialBus.Loopback.Operations
import SerialBus.Session.Call

/-! What a loopback device is to the user of its transfers, without handles, claims, indices and
caches: the state of the device, and the alternates that were selected. -/
namespace SerialBus.Loopback

open Session

/-- The number of the interface that is named in a configuration, by default of its first one. -/
def Configuration.interfaceNumber (c : Configuration) : Option UInt8 → Except UsbError UInt8
  | some n => .ok n
  | none =>
    match c.alternates.head? with
    | some a => .ok a.descriptor.interfaceNumber
    | none => .error (.invalidDescriptorIndex .interface 0)

structure Profile where
  state : DeviceState
  /-- Whether a configuration was selected, and neither given up since nor the device. -/
  selected : Bool
  /-- The alternates selected since for interface numbers. -/
  alternates : Table UInt8 UInt8

/-- The requests of a run that transfers data, from any interface by number or by default. -/
inductive Request
  | setConfiguration (value : Option UInt8)
  | setAlternate (interface alternate : Option UInt8)
  | claim (interface : Option UInt8)
  | write (endpoint : UInt8) (data : List UInt8) (interface : Option UInt8) (timeout : Option Nat)
  | read (endpoint : UInt8) (length : Nat) (interface : Option UInt8) (timeout : Option Nat)
  | setHalt (endpoint : UInt8)
  | clearHaltFeature (endpoint : UInt8)
  | clearHalt (endpoint : UInt8)
  | reset
  | dispose

/-- The call of the device that a request is. -/
def Request.call : Request → DeviceCall
  | setConfiguration value => .setConfiguration value
  | setAlternate interface alternate => .setAlternate interface alternate
  | claim interface => .claim interface
  | write endpoint data interface timeout => .write endpoint data interface timeout
  | read endpoint length interface timeout => .read endpoint length interface timeout
  | setHalt endpoint => .setFeature SerialBus.Device.endpointHalt (.endpoint endpoint)
  | clearHaltFeature endpoint => .clearFeature SerialBus.Device.endpointHalt (.endpoint endpoint)
  | clearHalt endpoint => .clearHalt endpoint
  | reset => .reset
  | dispose => .dispose

namespace Profile

/-- A device that nothing has happened to. -/
def ofSpec (spec : Device) : Profile := ⟨.ofSpec spec, false, ∅⟩

/-- The current configuration. It has to be read back if it was not selected. -/
def configuration (p : Profile) : Except UsbError Configuration :=
  if p.selected || p.state.spec.reportsConfiguration then
    match p.state.active? with
    | some c => .ok c
    | none => .error .configurationNotSet
  else .error (.notSupported "get_configuration")

/-- The current alternate setting of an interface: the one selected last, else alternate 0. -/
def current (p : Profile) (number : UInt8) : Except UsbError Alternate :=
  match p.state.alternate? number ((p.alternates.get? number).getD 0) with
  | some a => .ok a
  | none => .error (.invalidInterface number (p.alternates.get? number))

/-- The current alternate setting of the interface that is named in the current configuration. -/
def alternate (p : Profile) (interface : Option UInt8) : Except UsbError Alternate :=
  p.configuration.bind fun c => (c.interfaceNumber interface).bind p.current

/-- The endpoint with the address on the current alternate of an interface. -/
def declared (p : Profile) (interface : Option UInt8) (address : UInt8) :
    Except UsbError EndpointDescriptor :=
  (p.alternate interface).bind fun a =>
    match a.endpoints.find? fun e => e.endpointAddress == address with
    | none => .error (.invalidEndpoint address)
    | some e => .ok e

/-- Whether data can be moved on an endpoint that there is. -/
def ready (p : Profile) (address : UInt8) (e : EndpointDescriptor) : Except UsbError Unit :=
  if e.transferType = .control then
    .error (.invalidArgument s!"endpoint {Text.hexMarked 2 address.toNat} is a control endpoint")
  else if p.state.halted.contains address then .error stalled
  else .ok ()

/-- Whether a transfer can take place on an endpoint of the current alternate of an interface. -/
def endpoint (p : Profile) (interface : Option UInt8) (address : UInt8) : Except UsbError Unit :=
  (p.declared interface address).bind (p.ready address)

/-- The profile with other bytes queued for an endpoint number. -/
def withQueue (p : Profile) (number : UInt8) (queue : List UInt8) : Profile :=
  { p with state := { p.state with pipes := p.state.pipes.insert number queue } }

/-- What is written to an OUT endpoint is queued, all of it. -/
def write (p : Profile) (address : UInt8) (data : List UInt8) (interface : Option UInt8) :
    Except UsbError Nat × Profile :=
  let number := endpointNumber address
  match p.endpoint interface address with
  | .error e => (.error e, p)
  | .ok _ =>
    if endpointDirection address = .toDevice then
      (.ok data.length, p.withQueue number (p.state.queue number ++ data))
    else (.error invalidParam, p)

/-- What is read from an IN endpoint is taken from the queue, as much as there is. -/
def read (p : Profile) (address : UInt8) (length : Nat) (interface : Option UInt8) :
    Except UsbError (List UInt8) × Profile :=
  let number := endpointNumber address
  let queue := p.state.queue number
  match p.endpoint interface address with
  | .error e => (.error e, p)
  | .ok _ =>
    if endpointDirection address = .toHost then
      if queue.isEmpty ∧ 0 < length then (.error timedOut, p)
      else (.ok (queue.take length), p.withQueue number (queue.drop length))
    else (.error invalidParam, p)

/-- A configuration is selected by its value, none by 0; all alternates are 0 again. -/
def configured (p : Profile) (value : UInt8) : Profile where
  state := { p.state with activeConfiguration := value }
  selected := value != 0
  alternates := ∅

/-- The value of the configuration that is named, by default of the first one; 0 is always known. -/
def chosen (p : Profile) : Option UInt8 → Except UsbError UInt8
  | none =>
    match p.state.spec.configurations.head? with
    | some c => .ok c.descriptor.configurationValue
    | none => .error (.invalidDescriptorIndex .configuration 0)
  | some value =>
    if value ≠ 0 ∧ (p.state.spec.configurationByValue? value).isNone then
      .error (.invalidConfiguration value)
    else .ok value

def setConfiguration (p : Profile) (value : Option UInt8) : Except UsbError Unit × Profile :=
  match p.chosen value with
  | .ok value => (.ok (), p.configured value)
  | .error e => (.error e, p)

/-- An alternate is selected if the current configuration has it, by default the current one. -/
def setAlternate (p : Profile) (interface alternate : Option UInt8) :
    Except UsbError Unit × Profile :=
  match p.alternate interface with
  | .error e => (.error e, p)
  | .ok a =>
    let number := a.descriptor.interfaceNumber
    let setting := alternate.getD a.descriptor.alternateSetting
    if (p.state.alternate? number setting).isSome then
      (.ok (), { p with alternates := p.alternates.insert number setting })
    else (.error (.invalidInterface number (some setting)), p)

/-- The number of the interface that is named to be claimed, by default the first one of the first
configuration, which need not be the current one. -/
def claimedNumber (p : Profile) : Option UInt8 → Except UsbError UInt8
  | some n => .ok n
  | none =>
    match p.state.spec.configurations.head? with
    | some c => c.interfaceNumber none
    | none => .error (.invalidDescriptorIndex .configuration 0)

/-- A claim succeeds for any number. -/
def claim (p : Profile) (interface : Option UInt8) : Except UsbError Unit :=
  (p.claimedNumber interface).map fun _ => ()

/-- The selections are forgotten; the device itself stays as it is. -/
def forgotten (p : Profile) : Profile := { p with selected := false, alternates := ∅ }

/-- The queues are emptied and the halts are over, and the selections are forgotten. -/
def reset (p : Profile) : Profile :=
  { p with state := { p.state with pipes := ∅, controlBuffer := [], halted := ∅ } }.forgotten

def withHalted (p : Profile) (halted : ByteSet) : Profile :=
  { p with state := { p.state with halted } }

/-- What a request is answered, and the profile after it. -/
def answer (p : Profile) : Request → Except UsbError Reply × Profile
  | .setConfiguration value => (p.setConfiguration value).map (·.map fun _ => .unit) id
  | .setAlternate interface alternate =>
    (p.setAlternate interface alternate).map (·.map fun _ => .unit) id
  | .claim interface => ((p.claim interface).map fun _ => .unit, p)
  | .write endpoint data interface _ => (p.write endpoint data interface).map (·.map .number) id
  | .read endpoint length interface _ => (p.read endpoint length interface).map (·.map .bytes) id
  | .setHalt endpoint => (.ok .unit, p.withHalted (p.state.halted.add endpoint))
  | .clearHaltFeature endpoint | .clearHalt endpoint =>
    (.ok .unit, p.withHalted (p.state.halted.erase endpoint))
  | .reset => (.ok .unit, p.reset)
  | .dispose => (.ok .unit, p.forgotten)

end Profile

end SerialBus.Loopback
