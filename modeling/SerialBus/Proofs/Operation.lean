import SerialBus.Session.Call

/-! The operations of backends as data, so that one statement covers the same operation of all
backends. -/
namespace SerialBus

open Session

/-- The numbering of handles on a backend that gives them the numbers that they have anyway. -/
abbrev HandleId.same (h : HandleId) : HandleId := h

/-- An operation with its arguments, by the type of its result. -/
inductive Operation : Type → Type
  | devices : Operation (List DeviceId)
  | deviceDescriptor (id : DeviceId) : Operation DeviceDescriptor
  | configurationDescriptor (id : DeviceId) (config : UInt8) : Operation ConfigurationDescriptor
  | interfaceDescriptor (id : DeviceId) (interface alternate config : UInt8) :
    Operation InterfaceDescriptor
  | endpointDescriptor (id : DeviceId) (endpoint interface alternate config : UInt8) :
    Operation EndpointDescriptor
  | openDevice (id : DeviceId) : Operation HandleId
  | closeDevice (h : HandleId) : Operation Unit
  | setConfiguration (h : HandleId) (value : UInt8) : Operation Unit
  | configuration (h : HandleId) : Operation UInt8
  | claimInterface (h : HandleId) (number : UInt8) : Operation Unit
  | releaseInterface (h : HandleId) (number : UInt8) : Operation Unit
  | setAlternate (h : HandleId) (number alternate : UInt8) : Operation Unit
  | bulkTransfer (h : HandleId) (endpoint number : UInt8) (payload : Payload) (timeout : Nat) :
    Operation Transferred
  | interruptTransfer (h : HandleId) (endpoint number : UInt8) (payload : Payload)
      (timeout : Nat) : Operation Transferred
  | isochronousTransfer (h : HandleId) (endpoint number : UInt8) (payload : Payload)
      (timeout : Nat) : Operation Transferred
  | controlTransfer (h : HandleId) (setup : Setup) (payload : Payload) (timeout : Nat) :
    Operation Transferred
  | resetDevice (h : HandleId) : Operation Unit
  | kernelDriverActive (h : HandleId) (number : UInt8) : Operation Bool
  | detachKernelDriver (h : HandleId) (number : UInt8) : Operation Unit
  | attachKernelDriver (h : HandleId) (number : UInt8) : Operation Unit
  | clearHalt (h : HandleId) (endpoint : UInt8) : Operation Unit

namespace Operation

variable {σ α : Type} [Backend σ]

/-- What a backend does for the operation. -/
def act : Operation α → Action σ α
  | devices => Backend.devices
  | deviceDescriptor id => Backend.deviceDescriptor id
  | configurationDescriptor id config => Backend.configurationDescriptor id config
  | interfaceDescriptor id interface alternate config =>
    Backend.interfaceDescriptor id interface alternate config
  | endpointDescriptor id endpoint interface alternate config =>
    Backend.endpointDescriptor id endpoint interface alternate config
  | openDevice id => Backend.openDevice id
  | closeDevice h => Backend.closeDevice h
  | setConfiguration h value => Backend.setConfiguration h value
  | configuration h => Backend.configuration h
  | claimInterface h number => Backend.claimInterface h number
  | releaseInterface h number => Backend.releaseInterface h number
  | setAlternate h number alternate => Backend.setAlternate h number alternate
  | bulkTransfer h endpoint number payload timeout =>
    Backend.bulkTransfer h endpoint number payload timeout
  | interruptTransfer h endpoint number payload timeout =>
    Backend.interruptTransfer h endpoint number payload timeout
  | isochronousTransfer h endpoint number payload timeout =>
    Backend.isochronousTransfer h endpoint number payload timeout
  | controlTransfer h setup payload timeout => Backend.controlTransfer h setup payload timeout
  | resetDevice h => Backend.resetDevice h
  | kernelDriverActive h number => Backend.kernelDriverActive h number
  | detachKernelDriver h number => Backend.detachKernelDriver h number
  | attachKernelDriver h number => Backend.attachKernelDriver h number
  | clearHalt h endpoint => Backend.clearHalt h endpoint

/-- The operation as a call, whatever it returns. -/
def call : Operation α → BackendCall
  | devices => .devices
  | deviceDescriptor id => .deviceDescriptor id
  | configurationDescriptor id config => .configurationDescriptor id config
  | interfaceDescriptor id interface alternate config =>
    .interfaceDescriptor id interface alternate config
  | endpointDescriptor id endpoint interface alternate config =>
    .endpointDescriptor id endpoint interface alternate config
  | openDevice id => .openDevice id
  | closeDevice h => .closeDevice h
  | setConfiguration h value => .setConfiguration h value
  | configuration h => .configuration h
  | claimInterface h number => .claimInterface h number
  | releaseInterface h number => .releaseInterface h number
  | setAlternate h number alternate => .setAlternate h number alternate
  | bulkTransfer h endpoint number payload timeout =>
    .bulkTransfer h endpoint number payload timeout
  | interruptTransfer h endpoint number payload timeout =>
    .interruptTransfer h endpoint number payload timeout
  | isochronousTransfer h endpoint number payload timeout =>
    .isochronousTransfer h endpoint number payload timeout
  | controlTransfer h setup payload timeout => .controlTransfer h setup payload timeout
  | resetDevice h => .resetDevice h
  | kernelDriverActive h number => .kernelDriverActive h number
  | detachKernelDriver h number => .detachKernelDriver h number
  | attachKernelDriver h number => .attachKernelDriver h number
  | clearHalt h endpoint => .clearHalt h endpoint

/-- The operation with the handle that it names replaced by the one that `ρ` gives for it. -/
def renumbered (ρ : HandleId → HandleId) : Operation α → Operation α
  | closeDevice h => closeDevice (ρ h)
  | setConfiguration h value => setConfiguration (ρ h) value
  | configuration h => configuration (ρ h)
  | claimInterface h number => claimInterface (ρ h) number
  | releaseInterface h number => releaseInterface (ρ h) number
  | setAlternate h number alternate => setAlternate (ρ h) number alternate
  | bulkTransfer h endpoint number payload timeout =>
    bulkTransfer (ρ h) endpoint number payload timeout
  | interruptTransfer h endpoint number payload timeout =>
    interruptTransfer (ρ h) endpoint number payload timeout
  | isochronousTransfer h endpoint number payload timeout =>
    isochronousTransfer (ρ h) endpoint number payload timeout
  | controlTransfer h setup payload timeout => controlTransfer (ρ h) setup payload timeout
  | resetDevice h => resetDevice (ρ h)
  | kernelDriverActive h number => kernelDriverActive (ρ h) number
  | detachKernelDriver h number => detachKernelDriver (ρ h) number
  | attachKernelDriver h number => attachKernelDriver (ρ h) number
  | clearHalt h endpoint => clearHalt (ρ h) endpoint
  | op => op

/-- Whether the operation can change which handles are open and what is claimed on them. -/
def changesOwners : Operation α → Bool
  | openDevice _ | closeDevice _ | claimInterface .. | releaseInterface .. => true
  | _ => false

/-- Whether the operation moves data on an endpoint. -/
def movesData : Operation α → Bool
  | bulkTransfer .. | interruptTransfer .. | isochronousTransfer .. => true
  | _ => false

/-- Whether the operation claims an interface. -/
def isClaim : Operation α → Bool
  | claimInterface .. => true
  | _ => false

/-- Whether the operation selects a configuration or an alternate setting. -/
def selects : Operation α → Bool
  | setConfiguration .. | setAlternate .. => true
  | _ => false

/-- Whether the operation opens a handle. -/
def opens : Operation α → Bool
  | openDevice _ => true
  | _ => false

/-- Whether the operation reads a descriptor below that of a device. -/
def reads : Operation α → Bool
  | configurationDescriptor .. | interfaceDescriptor .. | endpointDescriptor .. => true
  | _ => false

/-- Whether the operation is neither a reset nor a control transfer other than a standard request. -/
def isStandard : Operation α → Bool
  | controlTransfer _ setup _ _ => requestKind setup.requestType == .standard
  | resetDevice _ => false
  | _ => true

/-- Whether the operation neither changes owners nor moves data. -/
def isQuiet (op : Operation α) : Bool := !op.changesOwners && !op.movesData

theorem renumbered_same (op : Operation α) : op.renumbered .same = op := by
  cases op <;> rfl

theorem renumbered_of_reads {op : Operation α} (h : op.reads = true) (ρ : HandleId → HandleId) :
    op.renumbered ρ = op := by
  cases op <;> first | rfl | cases h

theorem isQuiet_of_reads {op : Operation α} (h : op.reads = true) :
    op.isQuiet = true ∧ op.selects = false := by
  cases op <;> first | exact ⟨rfl, rfl⟩ | cases h

theorem isStandard_of_reads {op : Operation α} (h : op.reads = true) : op.isStandard = true := by
  cases op <;> first | rfl | cases h

theorem isQuiet_iff {op : Operation α} :
    op.isQuiet = true ↔ op.changesOwners = false ∧ op.movesData = false := by
  simp [isQuiet]

theorem isClaim_of_changesOwners {op : Operation α} (h : op.changesOwners = false) :
    op.isClaim = false := by
  cases op <;> first | rfl | cases h

theorem opens_of_changesOwners {op : Operation α} (h : op.changesOwners = false) :
    op.opens = false := by
  cases op <;> first | rfl | cases h

theorem changesOwners_of_movesData {op : Operation α} (h : op.movesData = true) :
    op.changesOwners = false := by
  cases op <;> first | rfl | cases h

end Operation

/-- Each call of a backend but that for its name is an operation, whose result is then shown. -/
theorem Session.BackendCall.eq_name_or_operation {σ : Type} [Backend σ] (c : BackendCall) :
    c = .name ∨ ∃ (α : Type) (op : Operation α) (shown : α → Reply),
      op.call = c ∧ (c.perform : Action σ Reply) = shown <$> op.act := by
  cases c with
  | name => exact .inl rfl
  | devices => exact .inr ⟨_, .devices, _, rfl, bind_pure_comp _ _⟩
  | deviceDescriptor id => exact .inr ⟨_, .deviceDescriptor id, _, rfl, bind_pure_comp _ _⟩
  | configurationDescriptor id config =>
    exact .inr ⟨_, .configurationDescriptor id config, _, rfl, bind_pure_comp _ _⟩
  | interfaceDescriptor id interface alternate config =>
    exact .inr ⟨_, .interfaceDescriptor id interface alternate config, _, rfl, bind_pure_comp _ _⟩
  | endpointDescriptor id endpoint interface alternate config =>
    exact .inr ⟨_, .endpointDescriptor id endpoint interface alternate config, _, rfl,
      bind_pure_comp _ _⟩
  | openDevice id => exact .inr ⟨_, .openDevice id, _, rfl, bind_pure_comp _ _⟩
  | closeDevice h => exact .inr ⟨_, .closeDevice h, _, rfl, bind_pure_comp _ _⟩
  | setConfiguration h value =>
    exact .inr ⟨_, .setConfiguration h value, _, rfl, bind_pure_comp _ _⟩
  | configuration h => exact .inr ⟨_, .configuration h, _, rfl, bind_pure_comp _ _⟩
  | claimInterface h number =>
    exact .inr ⟨_, .claimInterface h number, _, rfl, bind_pure_comp _ _⟩
  | releaseInterface h number =>
    exact .inr ⟨_, .releaseInterface h number, _, rfl, bind_pure_comp _ _⟩
  | setAlternate h number alternate =>
    exact .inr ⟨_, .setAlternate h number alternate, _, rfl, bind_pure_comp _ _⟩
  | bulkTransfer h endpoint number payload timeout =>
    exact .inr ⟨_, .bulkTransfer h endpoint number payload timeout, _, rfl, bind_pure_comp _ _⟩
  | interruptTransfer h endpoint number payload timeout =>
    exact .inr ⟨_, .interruptTransfer h endpoint number payload timeout, _, rfl,
      bind_pure_comp _ _⟩
  | isochronousTransfer h endpoint number payload timeout =>
    exact .inr ⟨_, .isochronousTransfer h endpoint number payload timeout, _, rfl,
      bind_pure_comp _ _⟩
  | controlTransfer h setup payload timeout =>
    exact .inr ⟨_, .controlTransfer h setup payload timeout, _, rfl, bind_pure_comp _ _⟩
  | resetDevice h => exact .inr ⟨_, .resetDevice h, _, rfl, bind_pure_comp _ _⟩
  | kernelDriverActive h number =>
    exact .inr ⟨_, .kernelDriverActive h number, _, rfl, bind_pure_comp _ _⟩
  | detachKernelDriver h number =>
    exact .inr ⟨_, .detachKernelDriver h number, _, rfl, bind_pure_comp _ _⟩
  | attachKernelDriver h number =>
    exact .inr ⟨_, .attachKernelDriver h number, _, rfl, bind_pure_comp _ _⟩
  | clearHalt h endpoint => exact .inr ⟨_, .clearHalt h endpoint, _, rfl, bind_pure_comp _ _⟩

/-- Whether the call moves data on an endpoint. -/
def Session.ViewCall.movesData : ViewCall → Bool
  | .write .. | .read .. => true
  | _ => false

end SerialBus
