import SerialBus.Device.Basic

/-!
Acquiring and giving back what a device holds. The handle is open whenever an interface is claimed,
an interface is claimed on the backend once however many claims there are on it, and a change of
configuration forgets alternates and endpoint types.
-/

namespace SerialBus

/-- How an operation names the interface that it works on. -/
inductive InterfaceTarget
  | default
  | number (n : UInt8)
  | resolved (location : InterfaceLocation)
  deriving DecidableEq, Repr, Inhabited

def InterfaceTarget.ofNumber? : Option UInt8 → InterfaceTarget
  | none => .default
  | some n => .number n

namespace Device

variable {σ : Type} [Backend σ]

/-- The open handle, opened if there is none. -/
def openHandle : DeviceAction σ HandleId := do
  match (← getHeld).handle with
  | some h => return h
  | none =>
    let h ← onBus (Backend.openDevice (← getDevice).id)
    modifyHeld ({ · with handle := some h })
    return h

/-- Closes the handle if there is one; the claims on it are gone even if that fails. -/
def closeHandle : DeviceAction σ Unit := do
  match (← getHeld).handle with
  | none => return
  | some h =>
    modifyHeld ({ · with handle := none, claimed := ∅ })
    onBus (Backend.closeDevice h)

/-- The configurations of a device that declares `count` of them, by index. -/
def configurationCursor (id : DeviceId) (count : Nat) :
    Cursor σ Nat (UInt8 × ConfigurationDescriptor) :=
  .ofIndex count fun i => return (i.toUInt8, ← Backend.configurationDescriptor id i.toUInt8)

/-- The first configuration with the value, with its index. -/
def configurationByValue (value : UInt8) :
    DeviceAction σ (Option (UInt8 × ConfigurationDescriptor)) := do
  let d ← getDevice
  onBus ((configurationCursor d.id d.descriptor.numConfigurations.toNat).find
    (fun c => c.2.configurationValue == value) 0)

/-- The index and value that a selection means: the first one for none, no index for 0. -/
def chooseConfiguration : Option UInt8 → DeviceAction σ (Option UInt8 × UInt8)
  | none => do
    let first ← onBus (Backend.configurationDescriptor (← getDevice).id 0)
    return (some 0, first.configurationValue)
  | some value => do
    if value = 0 then return (none, 0)
    match ← configurationByValue value with
    | some (index, _) => return (some index, value)
    | none => throw (.invalidConfiguration value)

/-- Selects a configuration by value. -/
def setConfiguration (value : Option UInt8) : DeviceAction σ Unit := do
  let (index, value) ← chooseConfiguration value
  let h ← openHandle
  onBus (Backend.setConfiguration h value)
  modifyHeld ({ · with activeConfig := index, alternates := ∅, endpointTypes := ∅ })

/-- The active configuration with its index, read back from the backend if it is not known. -/
def activeConfiguration : DeviceAction σ (UInt8 × ConfigurationDescriptor) := do
  match (← getHeld).activeConfig with
  | some index =>
    return (index, ← onBus (Backend.configurationDescriptor (← getDevice).id index))
  | none =>
    let h ← openHandle
    let value ← onBus (Backend.configuration h)
    if value = 0 then throw .configurationNotSet
    match ← configurationByValue value with
    | none => throw .configurationNotSet
    | some (index, descriptor) =>
      modifyHeld ({ · with activeConfig := some index })
      return (index, descriptor)

/--
The interface that the target names in the active configuration: the alternate selected for the
number, else the first one found for it.
-/
def findInterface (target : InterfaceTarget) : DeviceAction σ InterfaceLocation := do
  let (config, descriptor) ← activeConfiguration
  let id := (← getDevice).id
  let search (number : UInt8) : DeviceAction σ InterfaceLocation := do
    let alternate := (← getHeld).alternates.get? number
    let walk : InterfaceWalk :=
      { device := id, config, numInterfaces := descriptor.numInterfaces }
    let isWanted (l : InterfaceLocation) : Bool :=
      l.descriptor.interfaceNumber == number &&
        alternate.all (l.descriptor.alternateSetting == ·)
    match ← onBus (InterfaceWalk.cursor.find isWanted walk) with
    | some location => return location
    | none => throw (.invalidInterface number alternate)
  match target with
  | .resolved location => return location
  | .number n => search n
  | .default => search (← onBus (Backend.interfaceDescriptor id 0 0 config)).interfaceNumber

/-- The interface number that the target names; by default that of the very first interface. -/
def interfaceNumber : InterfaceTarget → DeviceAction σ UInt8
  | .resolved location => return location.descriptor.interfaceNumber
  | .number n => return n
  | .default => do
    return (← onBus (Backend.interfaceDescriptor (← getDevice).id 0 0 0)).interfaceNumber

/-- Claims on the backend what is not claimed yet, and then gives the claims on it by `level`. -/
def acquire (number : UInt8) (level : Nat → Nat) : DeviceAction σ Unit := do
  let h ← openHandle
  if !(← getHeld).claimed.contains number then onBus (Backend.claimInterface h number)
  modifyHeld fun held => { held with
    claimed := held.claimed.insert number (level ((held.claimed.get? number).getD 0)) }

/-- Adds a claim. -/
def claim (target : InterfaceTarget) : DeviceAction σ Unit := do
  acquire (← interfaceNumber target) (· + 1)

/-- Claims an interface that is not claimed yet. -/
def ensureClaimed (target : InterfaceTarget) : DeviceAction σ Unit := do
  acquire (← interfaceNumber target) (max · 1)

/-- Takes one claim back; the last one gives the interface back to the backend. -/
def release (target : InterfaceTarget) : DeviceAction σ Unit := do
  let number ← interfaceNumber target
  match (← getHeld).claimed.get? number with
  | none => return
  | some level =>
    if 1 < level then
      modifyHeld fun held => { held with claimed := held.claimed.insert number (level - 1) }
    else
      let h ← openHandle
      onBus (Backend.releaseInterface h number)
      modifyHeld fun held => { held with claimed := held.claimed.erase number }

/-- Whether the configuration has the alternate; the whole configuration is walked through. -/
def hasAlternate (config number alternate : UInt8) : DeviceAction σ Bool := do
  let id := (← getDevice).id
  let descriptor ← onBus (Backend.configurationDescriptor id config)
  let walk : InterfaceWalk := { device := id, config, numInterfaces := descriptor.numInterfaces }
  let found ← onBus (InterfaceWalk.cursor.filter (fun l =>
    l.descriptor.interfaceNumber == number && l.descriptor.alternateSetting == alternate) walk)
  return !found.isEmpty

/-- Selects an alternate of an interface, by default the one in use, and claims the interface. -/
def setAlternate (target : InterfaceTarget) (alternate : Option UInt8) : DeviceAction σ Unit := do
  let current ← findInterface target
  let number := current.descriptor.interfaceNumber
  let alternate := alternate.getD current.descriptor.alternateSetting
  if alternate ≠ current.descriptor.alternateSetting then
    if !(← hasAlternate current.config number alternate) then
      throw (.invalidInterface number (some alternate))
  ensureClaimed (.number number)
  let h ← openHandle
  onBus (Backend.setAlternate h number alternate)
  modifyHeld fun held => { held with alternates := held.alternates.insert number alternate }

/-- The endpoints of an alternate setting, by index. -/
def endpointCursor (id : DeviceId) (l : InterfaceLocation) :
    Cursor σ Nat (UInt8 × EndpointDescriptor) :=
  .ofIndex l.descriptor.numEndpoints.toNat fun i =>
    return (i.toUInt8, ← Backend.endpointDescriptor id i.toUInt8 l.index l.alternateIndex l.config)

/-- The transfer type of an address on an alternate setting, asked for once. -/
def endpointType (address : UInt8) (l : InterfaceLocation) : DeviceAction σ TransferType := do
  let key : EndpointKey :=
    ⟨address, l.descriptor.interfaceNumber, l.descriptor.alternateSetting⟩
  match (← getHeld).endpointTypes.get? key with
  | some kind => return kind
  | none =>
    let id := (← getDevice).id
    match ← onBus ((endpointCursor id l).find (fun e => e.2.endpointAddress == address) 0) with
    | none => throw (.invalidEndpoint address)
    | some (_, e) =>
      modifyHeld fun held => { held with
        endpointTypes := held.endpointTypes.insert key e.transferType }
      return e.transferType

/-- Gives all the interfaces back, whatever fails, and returns the first failure. -/
def releaseEach (h : HandleId) : List UInt8 → Action σ (Option UsbError)
  | [] => return none
  | number :: rest => do
    let first ← attempt (Backend.releaseInterface h number)
    let later ← releaseEach h rest
    match first with
    | .error e => return some e
    | .ok () => return later

def releaseAll : DeviceAction σ (Option UsbError) := do
  let held ← getHeld
  modifyHeld ({ · with claimed := ∅ })
  match held.handle with
  | none => return none
  | some h => onBus (releaseEach h held.claimed.keys)

/--
Gives all claims back, closes the handle if `close` says so, and forgets everything else. Nothing
is left out because of a failure; the first failure is raised at the end.
-/
def dispose (close : Bool) : DeviceAction σ Unit := do
  let released ← releaseAll
  let closed ← if close then attempt closeHandle else pure (.ok ())
  modifyHeld ({ · with activeConfig := none, alternates := ∅, endpointTypes := ∅ })
  match released, closed with
  | some e, _ => throw e
  | none, .error e => throw e
  | none, .ok () => return

end Device

end SerialBus
