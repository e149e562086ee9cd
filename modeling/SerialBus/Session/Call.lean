import SerialBus.Session.Reply

/-! Single operations on a device, on a view of it, or on a backend. -/

namespace SerialBus.Session

/-- An operation on a device. -/
inductive DeviceCall
  | info
  | summary
  | defaultTimeout
  | setDefaultTimeout (ms : Int)
  | setConfiguration (value : Option UInt8)
  | setAlternate (interface alternate : Option UInt8)
  | claim (interface : Option UInt8)
  | release (interface : Option UInt8)
  | reset
  | dispose
  | write (endpoint : UInt8) (data : List UInt8) (interface : Option UInt8) (timeout : Option Nat)
  | read (endpoint : UInt8) (length : Nat) (interface : Option UInt8) (timeout : Option Nat)
  | control (setup : Setup) (data : ControlData) (timeout : Option Nat)
  | kernelDriverActive (interface : UInt8)
  | detachKernelDriver (interface : UInt8)
  | attachKernelDriver (interface : UInt8)
  | clearHalt (endpoint : UInt8)
  | langids
  | manufacturer
  | product
  | serialNumber
  | string (index : UInt8) (langid : Option UInt16)
  | getStatus (target : RequestTarget)
  | clearFeature (feature : UInt16) (target : RequestTarget)
  | setFeature (feature : UInt16) (target : RequestTarget)
  | getDescriptor (size : Nat) (type index : UInt8) (wIndex : UInt16)
  | setDescriptor (data : List UInt8) (type index : UInt8) (wIndex : UInt16)
  | reportedConfiguration
  | reportedAlternate (interface : UInt8)
  | configurations
  | tree
  | findConfigurations (all : Bool) (test : Shown ConfigurationView → Bool)

/-- A view that a session keeps. -/
inductive View
  | configuration (c : ConfigurationView)
  | interface (i : InterfaceView)
  | endpoint (e : EndpointView)

/-- How to get to a view. -/
inductive ViewPath
  | active
  | configuration (c : UInt8)
  | interface (c i a : UInt8)
  | endpoint (c i a e : UInt8)

/-- An operation on a view. -/
inductive ViewCall
  | select
  | children
  | write (data : List UInt8) (timeout : Option Nat)
  | read (length : Nat) (timeout : Option Nat)
  | clearHalt
  | findInterfaces (all : Bool) (test : Shown InterfaceView → Bool)
  | findEndpoints (all : Bool) (test : Shown EndpointView → Bool)

/-- An operation of a backend. -/
inductive BackendCall
  | name
  | devices
  | deviceDescriptor (id : DeviceId)
  | configurationDescriptor (id : DeviceId) (config : UInt8)
  | interfaceDescriptor (id : DeviceId) (interface alternate config : UInt8)
  | endpointDescriptor (id : DeviceId) (endpoint interface alternate config : UInt8)
  | openDevice (id : DeviceId)
  | closeDevice (h : HandleId)
  | setConfiguration (h : HandleId) (value : UInt8)
  | configuration (h : HandleId)
  | claimInterface (h : HandleId) (number : UInt8)
  | releaseInterface (h : HandleId) (number : UInt8)
  | setAlternate (h : HandleId) (number alternate : UInt8)
  | bulkTransfer (h : HandleId) (endpoint number : UInt8) (payload : Payload) (timeout : Nat)
  | interruptTransfer (h : HandleId) (endpoint number : UInt8) (payload : Payload) (timeout : Nat)
  | isochronousTransfer (h : HandleId) (endpoint number : UInt8) (payload : Payload)
      (timeout : Nat)
  | controlTransfer (h : HandleId) (setup : Setup) (payload : Payload) (timeout : Nat)
  | resetDevice (h : HandleId)
  | kernelDriverActive (h : HandleId) (number : UInt8)
  | detachKernelDriver (h : HandleId) (number : UInt8)
  | attachKernelDriver (h : HandleId) (number : UInt8)
  | clearHalt (h : HandleId) (endpoint : UInt8)

variable {σ : Type} [Backend σ]

/-- The texts of what a search by a test finds: the first one, or all of them. -/
def findTexts {ρ α : Type} (c : Cursor σ ρ α) (start : ρ) (shown : α → Shown α) (all : Bool)
    (test : Shown α → Bool) : Action σ Reply := do
  if all then
    return .texts ((← c.filter (fun a => test (shown a)) start).map fun a => (shown a).text)
  return .optionalText ((← c.find (fun a => test (shown a)) start).map fun a => (shown a).text)

def unitReply {τ : Type} (act : Action τ Unit) : Action τ Reply := do
  act
  return .unit

def DeviceCall.perform : DeviceCall → DeviceAction σ Reply
  | info => return .device (← getDevice) (Backend.name σ)
  | summary => return .summary (← Device.summary)
  | defaultTimeout => return .number (← getDevice).defaultTimeout
  | setDefaultTimeout ms => unitReply (Device.setDefaultTimeout ms)
  | setConfiguration value => unitReply (Device.setConfiguration value)
  | setAlternate interface alternate =>
    unitReply (Device.setAlternate (.ofNumber? interface) alternate)
  | claim interface => unitReply (Device.claim (.ofNumber? interface))
  | release interface => unitReply (Device.release (.ofNumber? interface))
  | reset => unitReply Device.reset
  | dispose => unitReply (Device.dispose true)
  | write endpoint data interface timeout =>
    return .number (← Device.write endpoint data interface timeout)
  | read endpoint length interface timeout =>
    return .bytes (← Device.receive endpoint length interface timeout)
  | control setup data timeout => return .transferred (← Device.controlTransfer setup data timeout)
  | kernelDriverActive interface => return .flag (← Device.kernelDriverActive interface)
  | detachKernelDriver interface => unitReply (Device.detachKernelDriver interface)
  | attachKernelDriver interface => unitReply (Device.attachKernelDriver interface)
  | clearHalt endpoint => unitReply (Device.clearHalt endpoint)
  | langids => return .words (← Device.langids)
  | manufacturer => return .optionalText (← Device.manufacturer)
  | product => return .optionalText (← Device.product)
  | serialNumber => return .optionalText (← Device.serialNumber)
  | string index langid => return .optionalText (← Device.string index langid)
  | getStatus target => return .number (← Device.getStatus target).toNat
  | clearFeature feature target => unitReply (Device.clearFeature feature target)
  | setFeature feature target => unitReply (Device.setFeature feature target)
  | getDescriptor size type index wIndex =>
    return .bytes (← Device.getDescriptor size type index wIndex)
  | setDescriptor data type index wIndex =>
    unitReply (Device.setDescriptor data type index wIndex)
  | reportedConfiguration => return .number (← Device.reportedConfiguration).toNat
  | reportedAlternate interface => return .number (← Device.reportedAlternate interface).toNat
  | configurations => do
    let d ← getDevice
    let items ← onBus (d.configurationViews.items 0)
    return .configurations (items.map (Except.map d.showConfiguration))
  | tree => do
    let d ← getDevice
    return .tree (← onBus d.tree)
  | findConfigurations all test => do
    let d ← getDevice
    onBus (findTexts d.configurationViews 0 d.showConfiguration all test)

/-- The view at the end of a path, with the reply that shows it. -/
def ViewPath.follow : ViewPath → DeviceAction σ (View × Reply)
  | active => do
    let c ← Device.activeView
    return (.configuration c, .configuration ((← getDevice).showConfiguration c))
  | configuration c => do
    let c ← Device.configurationView c
    return (.configuration c, .configuration ((← getDevice).showConfiguration c))
  | interface c i a => do
    let i ← (← Device.configurationView c).interface i a
    return (.interface i, .interface ((← getDevice).showInterface i))
  | endpoint c i a e => do
    let i ← (← Device.configurationView c).interface i a
    let e ← i.endpoint e
    return (.endpoint e, .endpoint ((← getDevice).showEndpoint e))

/-- The reply to an operation on a view; none if the view has no such operation. -/
def ViewCall.perform? : ViewCall → View → Option (DeviceAction σ Reply)
  | select, .configuration c => some (unitReply c.select)
  | select, .interface i => some (unitReply i.select)
  | children, .configuration c => some do
    let d ← getDevice
    let items ← onBus (InterfaceWalk.cursor.items (c.walk d.id))
    return .interfaces (items.map (Except.map d.showInterface))
  | children, .interface i => some do
    let d ← getDevice
    let items ← onBus ((i.endpoints d.id).items 0)
    return .endpoints (items.map (Except.map d.showEndpoint))
  | write data timeout, .endpoint e => some do return .number (← e.write data timeout)
  | read length timeout, .endpoint e => some do return .bytes (← e.receive length timeout)
  | clearHalt, .endpoint e => some (unitReply e.clearHalt)
  | findInterfaces all test, .configuration c => some do
    let d ← getDevice
    onBus (findTexts InterfaceWalk.cursor (c.walk d.id) d.showInterface all test)
  | findEndpoints all test, .interface i => some do
    let d ← getDevice
    onBus (findTexts (i.endpoints d.id) 0 d.showEndpoint all test)
  | _, _ => none

def BackendCall.perform : BackendCall → Action σ Reply
  | name => return .text (Backend.name σ)
  | devices => return .ids (← Backend.devices)
  | deviceDescriptor id => return .deviceDescriptor (← Backend.deviceDescriptor id)
  | configurationDescriptor id config =>
    return .configurationDescriptor (← Backend.configurationDescriptor id config)
  | interfaceDescriptor id interface alternate config =>
    return .interfaceDescriptor (← Backend.interfaceDescriptor id interface alternate config)
  | endpointDescriptor id endpoint interface alternate config =>
    return .endpointDescriptor
      (← Backend.endpointDescriptor id endpoint interface alternate config)
  | openDevice id => return .number (← Backend.openDevice id).number
  | closeDevice h => unitReply (Backend.closeDevice h)
  | setConfiguration h value => unitReply (Backend.setConfiguration h value)
  | configuration h => return .number (← Backend.configuration h).toNat
  | claimInterface h number => unitReply (Backend.claimInterface h number)
  | releaseInterface h number => unitReply (Backend.releaseInterface h number)
  | setAlternate h number alternate => unitReply (Backend.setAlternate h number alternate)
  | bulkTransfer h endpoint number payload timeout =>
    return .transferred (← Backend.bulkTransfer h endpoint number payload timeout)
  | interruptTransfer h endpoint number payload timeout =>
    return .transferred (← Backend.interruptTransfer h endpoint number payload timeout)
  | isochronousTransfer h endpoint number payload timeout =>
    return .transferred (← Backend.isochronousTransfer h endpoint number payload timeout)
  | controlTransfer h setup payload timeout =>
    return .transferred (← Backend.controlTransfer h setup payload timeout)
  | resetDevice h => unitReply (Backend.resetDevice h)
  | kernelDriverActive h number => return .flag (← Backend.kernelDriverActive h number)
  | detachKernelDriver h number => unitReply (Backend.detachKernelDriver h number)
  | attachKernelDriver h number => unitReply (Backend.attachKernelDriver h number)
  | clearHalt h endpoint => unitReply (Backend.clearHalt h endpoint)

end SerialBus.Session
