import SerialBus.Descriptor.Strings
import SerialBus.Loopback.Bus

/-!
The operations of a loopback bus. An operation that fails leaves handles and devices as they were.
-/

namespace SerialBus.Loopback.Bus

def enumerate : Action Bus (List DeviceId) := do
  enter .enumerateDevices
  return (List.range (← get).devices.length).map DeviceId.mk

def deviceDescriptor (id : DeviceId) : Action Bus DeviceDescriptor := do
  enter .getDeviceDescriptor
  return (← device id).spec.descriptor

def configurationDescriptor (id : DeviceId) (config : UInt8) :
    Action Bus ConfigurationDescriptor := do
  enter .getConfigurationDescriptor
  return (← configurationAt id config).descriptor

def interfaceDescriptor (id : DeviceId) (interface alternate config : UInt8) :
    Action Bus InterfaceDescriptor := do
  enter .getInterfaceDescriptor
  return (← alternateAt id interface alternate config).descriptor

def endpointDescriptor (id : DeviceId) (endpoint interface alternate config : UInt8) :
    Action Bus EndpointDescriptor := do
  enter .getEndpointDescriptor
  match (← alternateAt id interface alternate config).endpoints[endpoint.toNat]? with
  | some e => pure e
  | none => throw (.invalidDescriptorIndex .endpoint endpoint)

def openDevice (id : DeviceId) : Action Bus HandleId := do
  enter .openDevice
  let _ ← device id
  let h : HandleId := ⟨(← get).nextHandle⟩
  modify fun b => { b with
    nextHandle := b.nextHandle + 1
    handles := b.handles.insert h { device := id, claimed := ∅, alternates := ∅ } }
  return h

def closeDevice (h : HandleId) : Action Bus Unit := do
  enter .closeDevice
  let _ ← handle h
  modify fun b => { b with handles := b.handles.erase h }

/-- Selects a configuration that exists, or none for 0; the handle forgets its alternates. -/
def setConfiguration (h : HandleId) (value : UInt8) : Action Bus Unit := do
  enter .setConfiguration
  let id := (← handle h).device
  if value ≠ 0 ∧ ((← device id).spec.configurationByValue? value).isNone then throw notFound
  modify fun b =>
    (b.modifyDevice id fun d => { d with activeConfiguration := value }).modifyHandle h
      fun held => { held with alternates := ∅ }

def configuration (h : HandleId) : Action Bus UInt8 := do
  enter .getConfiguration
  let d ← device (← handle h).device
  if d.spec.reportsConfiguration then return d.activeConfiguration
  throw (.notSupported "get_configuration")

def claimInterface (h : HandleId) (number : UInt8) : Action Bus Unit := do
  enter .claimInterface
  if (← handle h).claimed.contains number then throw busy
  modify fun b => b.modifyHandle h fun held => { held with claimed := held.claimed.add number }

def releaseInterface (h : HandleId) (number : UInt8) : Action Bus Unit := do
  enter .releaseInterface
  if !(← handle h).claimed.contains number then throw notFound
  modify fun b => b.modifyHandle h fun held => { held with
    claimed := held.claimed.erase number
    alternates := held.alternates.erase number }

/-- Selects an alternate that the active configuration has, on a claimed interface. -/
def setAlternate (h : HandleId) (number alternate : UInt8) : Action Bus Unit := do
  enter .setInterfaceAltsetting
  let held ← handle h
  if !held.claimed.contains number then throw notFound
  if ((← device held.device).alternate? number alternate).isNone then throw notFound
  modify fun b => b.modifyHandle h fun held => { held with
    alternates := held.alternates.insert number alternate }

/-- The data stage of a transfer on an endpoint that is ready for it. -/
def moveData (d : DeviceState) (endpoint : UInt8) :
    Payload → Except UsbError (Transferred × DeviceState)
  | .send data =>
    if endpointDirection endpoint = .toDevice then
      let number := endpointNumber endpoint
      .ok (.written data.length, { d with pipes := d.pipes.insert number (d.queue number ++ data) })
    else .error invalidParam
  | .receive length =>
    if endpointDirection endpoint = .toHost then
      let number := endpointNumber endpoint
      let queue := d.queue number
      if queue.isEmpty ∧ 0 < length then .error timedOut
      else .ok (.read (queue.take length),
        { d with pipes := d.pipes.insert number (queue.drop length) })
    else .error invalidParam

/-- A transfer on an endpoint of the alternate that the handle selected, else of alternate 0. -/
def dataTransfer (m : Method) (kind : TransferType) (h : HandleId) (endpoint number : UInt8)
    (payload : Payload) (timeout : Nat) : Action Bus Transferred := do
  enter m
  modify fun b => { b with lastTimeout := some timeout }
  let held ← handle h
  if !held.claimed.contains number then throw notFound
  let d ← device held.device
  match d.endpoint? number ((held.alternates.get? number).getD 0) endpoint with
  | none => throw notFound
  | some e =>
    if e.transferType ≠ kind then throw invalidParam
    if d.halted.contains endpoint then throw stalled
    let (result, d) ← liftResult (moveData d endpoint payload)
    modify fun b => b.modifyDevice held.device fun _ => d
    return result

/-! The standard requests that a device answers. -/

def getStatusRequest : UInt8 := 0x00
def clearFeatureRequest : UInt8 := 0x01
def setFeatureRequest : UInt8 := 0x03
def getDescriptorRequest : UInt8 := 0x06
def getConfigurationRequest : UInt8 := 0x08
def getInterfaceRequest : UInt8 := 0x0A

/-- The feature selector of a halted endpoint. -/
def endpointHalt : UInt16 := 0

/-- The reply to a request for a string descriptor. -/
def stringReply (d : DeviceState) (index : Nat) : Except UsbError (List UInt8) :=
  if index = 0 then
    .ok (d.spec.langidTable.getD (StringDescriptor.encodeLangids [StringDescriptor.usEnglish]))
  else
    match d.spec.strings[index - 1]? with
    | some text => .ok (StringDescriptor.encode text)
    | none => .error stalled

/-- The whole reply to a standard request from device to host. -/
def standardReply (d : DeviceState) (held : Handle) (setup : Setup) :
    Except UsbError (List UInt8) :=
  let low := setup.index.toUInt8
  if setup.request = getStatusRequest then
    let halted := requestRecipient setup.requestType == .endpoint && d.halted.contains low
    .ok [if halted then 1 else 0, 0]
  else if setup.request = getDescriptorRequest ∧
      (setup.value >>> 8).toUInt8 = StringDescriptor.typeCode then
    stringReply d (setup.value &&& 0xFF).toNat
  else if setup.request = getConfigurationRequest then .ok [d.activeConfiguration]
  else if setup.request = getInterfaceRequest then .ok [(held.alternates.get? low).getD 0]
  else .error stalled

/-- The first `length` bytes of `data`, filled up with zeros. -/
def padded (length : Nat) (data : List UInt8) : List UInt8 :=
  data.take length ++ List.replicate (length - data.length) 0

/-- The reply to a control request from device to host that asks for `length` bytes. -/
def controlReply (d : DeviceState) (held : Handle) (setup : Setup) (length : Nat) :
    Except UsbError (List UInt8) :=
  match requestKind setup.requestType with
  | .standard => (standardReply d held setup).map (List.take length)
  | .vendor => .ok (padded length d.controlBuffer)
  | _ => .error stalled

/-- The device after a control request with the data. -/
def controlStore (d : DeviceState) (setup : Setup) (data : List UInt8) :
    Except UsbError DeviceState :=
  let low := setup.index.toUInt8
  let halting := requestRecipient setup.requestType = .endpoint ∧ setup.value = endpointHalt
  match requestKind setup.requestType with
  | .vendor => .ok { d with controlBuffer := data }
  | .standard =>
    if setup.request = setFeatureRequest then
      .ok (if halting then { d with halted := d.halted.add low } else d)
    else if setup.request = clearFeatureRequest then
      .ok (if halting then { d with halted := d.halted.erase low } else d)
    else .error stalled
  | _ => .error stalled

def controlTransfer (h : HandleId) (setup : Setup) (payload : Payload) (timeout : Nat) :
    Action Bus Transferred := do
  enter .ctrlTransfer
  modify fun b => { b with lastTimeout := some timeout }
  let held ← handle h
  let d ← device held.device
  match requestDirection setup.requestType, payload with
  | .toHost, .receive length =>
    return .read (← liftResult (controlReply d held setup length))
  | .toDevice, .send data =>
    let d ← liftResult (controlStore d setup data)
    modify fun b => b.modifyDevice held.device fun _ => d
    return .written data.length
  | _, _ => throw invalidParam

/-- Empties the queues and the control data and ends all halts. -/
def resetDevice (h : HandleId) : Action Bus Unit := do
  enter .resetDevice
  let id := (← handle h).device
  modify fun b => b.modifyDevice id fun d => { d with
    pipes := ∅
    controlBuffer := []
    halted := ∅ }

def kernelDriverActive (h : HandleId) (number : UInt8) : Action Bus Bool := do
  enter .isKernelDriverActive
  return (← device (← handle h).device).kernelDrivers.contains number

def detachKernelDriver (h : HandleId) (number : UInt8) : Action Bus Unit := do
  enter .detachKernelDriver
  let id := (← handle h).device
  if !(← device id).kernelDrivers.contains number then throw notFound
  modify fun b => b.modifyDevice id fun d => { d with
    kernelDrivers := d.kernelDrivers.erase number }

def attachKernelDriver (h : HandleId) (number : UInt8) : Action Bus Unit := do
  enter .attachKernelDriver
  let id := (← handle h).device
  if (← device id).kernelDrivers.contains number then throw busy
  modify fun b => b.modifyDevice id fun d => { d with
    kernelDrivers := d.kernelDrivers.add number }

def clearHalt (h : HandleId) (endpoint : UInt8) : Action Bus Unit := do
  enter .clearHalt
  let id := (← handle h).device
  modify fun b => b.modifyDevice id fun d => { d with halted := d.halted.erase endpoint }

end SerialBus.Loopback.Bus

namespace SerialBus.Loopback

instance : Backend Bus where
  name := "loopback"
  devices := Bus.enumerate
  deviceDescriptor := Bus.deviceDescriptor
  configurationDescriptor := Bus.configurationDescriptor
  interfaceDescriptor := Bus.interfaceDescriptor
  endpointDescriptor := Bus.endpointDescriptor
  openDevice := Bus.openDevice
  closeDevice := Bus.closeDevice
  setConfiguration := Bus.setConfiguration
  configuration := Bus.configuration
  claimInterface := Bus.claimInterface
  releaseInterface := Bus.releaseInterface
  setAlternate := Bus.setAlternate
  bulkTransfer := Bus.dataTransfer .bulkTransfer .bulk
  interruptTransfer := Bus.dataTransfer .interruptTransfer .interrupt
  isochronousTransfer := Bus.dataTransfer .isochronousTransfer .isochronous
  controlTransfer := Bus.controlTransfer
  resetDevice := Bus.resetDevice
  kernelDriverActive := Bus.kernelDriverActive
  detachKernelDriver := Bus.detachKernelDriver
  attachKernelDriver := Bus.attachKernelDriver
  clearHalt := Bus.clearHalt

end SerialBus.Loopback
