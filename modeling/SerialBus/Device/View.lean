import SerialBus.Descriptor.Names
import SerialBus.Device.Transfer

/-!
Views of the descriptor tree: configurations, interfaces and endpoints as they were read, with the
operations on the device that they stand for.
-/

namespace SerialBus

structure ConfigurationView where
  index : UInt8
  descriptor : ConfigurationDescriptor
  deriving DecidableEq, Repr, Inhabited

structure EndpointView where
  interface : InterfaceLocation
  index : UInt8
  descriptor : EndpointDescriptor
  deriving DecidableEq, Repr, Inhabited

/-- One alternate setting of one interface. -/
abbrev InterfaceView := InterfaceLocation

variable {σ : Type} [Backend σ]

namespace Device

def activeView : DeviceAction σ ConfigurationView := do
  let (index, descriptor) ← activeConfiguration
  return ⟨index, descriptor⟩

/-- The configuration with the index. -/
def configurationView (index : UInt8) : DeviceAction σ ConfigurationView := do
  let d ← getDevice
  if d.descriptor.numConfigurations ≤ index then
    throw (.invalidDescriptorIndex .configuration index)
  return ⟨index, ← onBus (Backend.configurationDescriptor d.id index)⟩

/-- The configurations of a device, by index. -/
def configurationViews (d : Device) : Cursor σ Nat ConfigurationView :=
  .ofIndex d.descriptor.numConfigurations.toNat fun i =>
    return ⟨i.toUInt8, ← Backend.configurationDescriptor d.id i.toUInt8⟩

end Device

namespace ConfigurationView

/-- Makes this configuration the active one. -/
def select (c : ConfigurationView) : DeviceAction σ Unit :=
  Device.setConfiguration (some c.descriptor.configurationValue)

/-- The interface with the two indices. -/
def interface (c : ConfigurationView) (index alternate : UInt8) : DeviceAction σ InterfaceView := do
  if c.descriptor.numInterfaces ≤ index then throw (.invalidDescriptorIndex .interface index)
  let id := (← getDevice).id
  let descriptor ← onBus (Backend.interfaceDescriptor id index alternate c.index)
  return { config := c.index, index, alternateIndex := alternate, descriptor }

/-- The walk through all interfaces and alternates of the configuration. -/
def walk (c : ConfigurationView) (id : DeviceId) : InterfaceWalk :=
  { device := id, config := c.index, numInterfaces := c.descriptor.numInterfaces }

def text (c : ConfigurationView) (superspeed : Bool) : String :=
  let d := c.descriptor
  s!"CONFIGURATION {d.configurationValue}: {d.maxPowerMilliamps superspeed} mA, " ++
    s!"{d.numInterfaces} interface(s)" ++
    (if d.selfPowered then ", self powered" else "") ++
    (if d.remoteWakeup then ", remote wakeup" else "")

end ConfigurationView

namespace InterfaceLocation

/-- Selects this alternate setting, which claims the interface. -/
def select (i : InterfaceView) : DeviceAction σ Unit :=
  Device.setAlternate (.number i.descriptor.interfaceNumber) (some i.descriptor.alternateSetting)

/-- The endpoint with the index. -/
def endpoint (i : InterfaceView) (index : UInt8) : DeviceAction σ EndpointView := do
  if i.descriptor.numEndpoints ≤ index then throw (.invalidDescriptorIndex .endpoint index)
  let id := (← getDevice).id
  let descriptor ← onBus (Backend.endpointDescriptor id index i.index i.alternateIndex i.config)
  return { interface := i, index, descriptor }

/-- The endpoints of the alternate setting, by index. -/
def endpoints (i : InterfaceView) (id : DeviceId) : Cursor σ Nat EndpointView :=
  .ofIndex i.descriptor.numEndpoints.toNat fun n => do
    let descriptor ← Backend.endpointDescriptor id n.toUInt8 i.index i.alternateIndex i.config
    return { interface := i, index := n.toUInt8, descriptor }

def text (i : InterfaceView) : String :=
  let d := i.descriptor
  s!"INTERFACE {d.interfaceNumber}, alternate {d.alternateSetting}: " ++
    s!"{interfaceClassName d.interfaceClass} ({d.numEndpoints} endpoint(s))"

end InterfaceLocation

namespace EndpointView

def address (e : EndpointView) : UInt8 := e.descriptor.endpointAddress

/-- Writes to the endpoint, claiming the interface that the view was taken from. -/
def write (e : EndpointView) (data : List UInt8) (timeout : Option Nat) : DeviceAction σ Nat := do
  liftResult (← Device.transfer e.address (.send data) (.resolved e.interface) timeout).toWritten

def receive (e : EndpointView) (length : Nat) (timeout : Option Nat) :
    DeviceAction σ (List UInt8) := do
  liftResult (← Device.transfer e.address (.receive length) (.resolved e.interface) timeout).toData

def clearHalt (e : EndpointView) : DeviceAction σ Unit := Device.clearHalt e.address

def text (e : EndpointView) : String :=
  let d := e.descriptor
  s!"ENDPOINT {Text.hexMarked 2 d.endpointAddress.toNat}: {transferTypeName d.attributes} " ++
    (if d.direction.isToHost then "IN" else "OUT") ++
    s!", max packet {d.maxPacketSize}, interval {d.interval}"

end EndpointView

/-- The text of a configuration with the texts of all that is below it, failures in their places. -/
structure TreeText where
  text : String
  interfaces : List (Except UsbError (String × List (Except UsbError String)))

namespace Device

/-- The descriptor tree of a device, read from the top and each branch to its end. -/
def tree (d : Device) : Action σ (List (Except UsbError TreeText)) :=
  d.configurationViews.forEach (fun
    | .error e => return .error e
    | .ok c => do
      let interfaces ← InterfaceWalk.cursor.forEach (fun
        | .error e => return .error e
        | .ok (i : InterfaceView) => do
          let endpoints ← (i.endpoints d.id).items 0
          return .ok (i.text, endpoints.map (Except.map EndpointView.text))) (c.walk d.id)
      return .ok ⟨c.text d.descriptor.isSuperspeed, interfaces⟩) 0

end Device

end SerialBus
