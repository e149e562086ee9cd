import SerialBus.Device.Transfer

/-! Parts of the operations of a device that are worth a name of their own. -/
namespace SerialBus.Device

variable {σ : Type} [Backend σ]

/-- The selection of a configuration that was chosen, which makes what is remembered obsolete. -/
def configure (h : HandleId) (index : Option UInt8) (value : UInt8) : DeviceAction σ Unit := do
  onBus (Backend.setConfiguration h value)
  modifyHeld ({ · with activeConfig := index, alternates := ∅, endpointTypes := ∅ })

def noteActive (index : UInt8) : DeviceAction σ Unit :=
  modifyHeld ({ · with activeConfig := some index })

def noteType (key : EndpointKey) (kind : TransferType) : DeviceAction σ Unit :=
  modifyHeld fun held => { held with endpointTypes := held.endpointTypes.insert key kind }

/-- The active configuration that the backend reports through a handle. -/
def reported (h : HandleId) : DeviceAction σ (UInt8 × ConfigurationDescriptor) := do
  let value ← onBus (Backend.configuration h)
  if value = 0 then throw .configurationNotSet
  match ← configurationByValue value with
  | none => throw .configurationNotSet
  | some found => return found

/-- The active configuration as the backend reports it. -/
def readBack : DeviceAction σ (UInt8 × ConfigurationDescriptor) := do
  let h ← openHandle
  let value ← onBus (Backend.configuration h)
  if value = 0 then throw .configurationNotSet
  match ← configurationByValue value with
  | none => throw .configurationNotSet
  | some (index, descriptor) =>
    modifyHeld ({ · with activeConfig := some index })
    return (index, descriptor)

theorem readBack_eq : (readBack : DeviceAction σ (UInt8 × ConfigurationDescriptor)) = (do
    let h ← openHandle
    let found ← reported h
    noteActive found.1
    return found) := by
  unfold readBack reported noteActive
  refine bind_congr fun h => ?_
  rw [bind_assoc]
  refine bind_congr fun value => ?_
  split
  · rfl
  · simp only [bind_assoc]
    refine bind_congr fun found => ?_
    cases found with
    | none => rfl
    | some p => rfl

theorem activeConfiguration_eq :
    (activeConfiguration : DeviceAction σ (UInt8 × ConfigurationDescriptor)) = (do
      match (← getHeld).activeConfig with
      | some index =>
        return (index, ← onBus (Backend.configurationDescriptor (← getDevice).id index))
      | none => readBack) := rfl

/-- The alternate that is wanted of an interface: the one selected, else any. -/
def isWanted (number : UInt8) (selected : Option UInt8) (l : InterfaceLocation) : Bool :=
  l.descriptor.interfaceNumber == number && selected.all (l.descriptor.alternateSetting == ·)

/-- The interface with the number in a configuration that is known. -/
def findNumbered (id : DeviceId) (config numInterfaces number : UInt8) :
    DeviceAction σ InterfaceLocation := do
  let selected := (← getHeld).alternates.get? number
  match ← onBus (InterfaceWalk.cursor.find (isWanted number selected)
      { device := id, config, numInterfaces }) with
  | some location => return location
  | none => throw (.invalidInterface number selected)

/-- The interface that the target names in a configuration that is known. -/
def findTarget (target : InterfaceTarget) (config numInterfaces : UInt8) :
    DeviceAction σ InterfaceLocation := do
  let id := (← getDevice).id
  match target with
  | .resolved location => return location
  | .number n => findNumbered id config numInterfaces n
  | .default =>
    findNumbered id config numInterfaces
      (← onBus (Backend.interfaceDescriptor id 0 0 config)).interfaceNumber

theorem findInterface_eq (target : InterfaceTarget) :
    (findInterface target : DeviceAction σ InterfaceLocation) = (do
      let (config, descriptor) ← activeConfiguration
      findTarget target config descriptor.numInterfaces) := rfl

/-- The check that an alternate which is not the current one exists. -/
def checkAlternate (current : InterfaceLocation) (alternate : UInt8) : DeviceAction σ PUnit := do
  let number := current.descriptor.interfaceNumber
  if alternate ≠ current.descriptor.alternateSetting then
    if !(← hasAlternate current.config number alternate) then
      throw (.invalidInterface number (some alternate))

/-- The selection of an alternate that was found to exist. -/
def selectAlternate (number alternate : UInt8) : DeviceAction σ Unit := do
  ensureClaimed (.number number)
  let h ← openHandle
  onBus (Backend.setAlternate h number alternate)
  modifyHeld fun held => { held with alternates := held.alternates.insert number alternate }

theorem setAlternate_eq (target : InterfaceTarget) (alternate : Option UInt8) :
    (setAlternate target alternate : DeviceAction σ Unit) = (do
      let current ← findInterface target
      let alternate := alternate.getD current.descriptor.alternateSetting
      checkAlternate current alternate
      selectAlternate current.descriptor.interfaceNumber alternate) := by
  unfold setAlternate checkAlternate
  refine bind_congr fun current => ?_
  dsimp only
  split
  · simp only [bind_assoc]
    refine bind_congr fun found => ?_
    split <;> rfl
  · rfl

/-- The primitive of a transfer type. -/
def dataTransfer (kind : TransferType) (h : HandleId) (endpoint number : UInt8) (payload : Payload)
    (timeout : Nat) : DeviceAction σ Transferred :=
  match kind with
  | .bulk => onBus (Backend.bulkTransfer h endpoint number payload timeout)
  | .interrupt => onBus (Backend.interruptTransfer h endpoint number payload timeout)
  | .isochronous => onBus (Backend.isochronousTransfer h endpoint number payload timeout)
  | .control =>
    throw (.invalidArgument s!"endpoint {Text.hexMarked 2 endpoint.toNat} is a control endpoint")

/-- All that comes before the primitive of a transfer. -/
def prepare (endpoint : UInt8) (target : InterfaceTarget) (timeout : Option Nat) :
    DeviceAction σ (TransferType × HandleId × UInt8 × Nat) := do
  let location ← findInterface target
  let kind ← endpointType endpoint location
  ensureClaimed (.resolved location)
  let h ← openHandle
  let timeout ← timeoutOr timeout
  return (kind, h, location.descriptor.interfaceNumber, timeout)

theorem transfer_eq (endpoint : UInt8) (payload : Payload) (target : InterfaceTarget)
    (timeout : Option Nat) :
    (transfer endpoint payload target timeout : DeviceAction σ Transferred) = (do
      let (kind, h, number, ms) ← prepare endpoint target timeout
      dataTransfer kind h endpoint number payload ms) := by
  simp only [prepare, bind_assoc, pure_bind]
  rfl

/-- The interface that a transfer is for, and the transfer type of the endpoint there. -/
def route (endpoint : UInt8) (target : InterfaceTarget) :
    DeviceAction σ (InterfaceLocation × TransferType) := do
  let location ← findInterface target
  let kind ← endpointType endpoint location
  return (location, kind)

/-- The rest of a transfer: the interface is claimed and the data moved. -/
def carry (endpoint : UInt8) (payload : Payload) (timeout : Option Nat)
    (r : InterfaceLocation × TransferType) : DeviceAction σ Transferred := do
  ensureClaimed (.resolved r.1)
  let h ← openHandle
  let timeout ← timeoutOr timeout
  dataTransfer r.2 h endpoint r.1.descriptor.interfaceNumber payload timeout

theorem transfer_eq_carry (endpoint : UInt8) (payload : Payload) (target : InterfaceTarget)
    (timeout : Option Nat) :
    (transfer endpoint payload target timeout : DeviceAction σ Transferred) =
      route endpoint target >>= carry endpoint payload timeout := by
  simp only [route, bind_assoc, pure_bind]
  rfl

theorem release_eq (target : InterfaceTarget) :
    (release target : DeviceAction σ Unit) =
      interfaceNumber target >>= fun n => release (.number n) := rfl

/-- The claim of an interface on the backend if there is none yet. -/
def claimOnce (h : HandleId) (number : UInt8) : DeviceAction σ PUnit := do
  if !(← getHeld).claimed.contains number then onBus (Backend.claimInterface h number)

theorem acquire_eq (number : UInt8) (level : Nat → Nat) :
    (acquire number level : DeviceAction σ Unit) = (do
      let h ← openHandle
      claimOnce h number
      modifyHeld fun held => { held with
        claimed := held.claimed.insert number (level ((held.claimed.get? number).getD 0)) }) := by
  unfold acquire claimOnce
  refine bind_congr fun h => ?_
  rw [bind_assoc]
  refine bind_congr fun held => ?_
  split <;> rfl

/-- The failure that is raised in the end: that of the releases, else that of the close. -/
def firstFailure : Option UsbError → Except UsbError Unit → Except UsbError Unit
  | some e, _ => .error e
  | none, closed => closed

def closeIf (close : Bool) : DeviceAction σ (Except UsbError Unit) :=
  if close then attempt closeHandle else pure (.ok ())

theorem dispose_eq (close : Bool) :
    (dispose close : DeviceAction σ Unit) = (do
      let released ← releaseAll
      let closed ← closeIf close
      modifyHeld ({ · with activeConfig := none, alternates := ∅, endpointTypes := ∅ })
      liftResult (firstFailure released closed)) := by
  unfold dispose
  refine bind_congr fun released => ?_
  cases close
  all_goals
    refine bind_congr fun closed => bind_congr fun _ => ?_
    cases released with
    | some e => rfl
    | none => cases closed <;> rfl

end SerialBus.Device
