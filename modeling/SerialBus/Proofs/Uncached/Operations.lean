import SerialBus.Proofs.Device.Elementary
import SerialBus.Proofs.Loopback.Reading
import SerialBus.Proofs.Loopback.Served

/-! A device that remembers neither the active configuration nor transfer types. It asks for them
whenever it needs them, and keeps its handle, its claims and its alternates alone. -/
namespace SerialBus

def Holdings.bare (h : Holdings) : Holdings := { h with activeConfig := none, endpointTypes := ∅ }

/-- The device with nothing in its caches. -/
def Device.bare (d : Device) : Device := { d with held := d.held.bare }

namespace Uncached

open SerialBus.Action Device
open Loopback (Bus AtCore)

section

variable {σ : Type} [Backend σ]

/-- The active configuration as the handle reports it now. -/
def activeConfiguration : DeviceAction σ (UInt8 × ConfigurationDescriptor) := do
  reported (← openHandle)

def findInterface (target : InterfaceTarget) : DeviceAction σ InterfaceLocation := do
  let (config, descriptor) ← activeConfiguration
  findTarget target config descriptor.numInterfaces

def setConfiguration (value : Option UInt8) : DeviceAction σ Unit := do
  let (_, value) ← chooseConfiguration value
  let h ← openHandle
  onBus (Backend.setConfiguration h value)
  modifyHeld ({ · with alternates := ∅ })

def setAlternate (target : InterfaceTarget) (alternate : Option UInt8) : DeviceAction σ Unit := do
  let current ← findInterface target
  let alternate := alternate.getD current.descriptor.alternateSetting
  checkAlternate current alternate
  selectAlternate current.descriptor.interfaceNumber alternate

/-- The transfer type of an address on an alternate setting, from its endpoint descriptors. -/
def endpointType (address : UInt8) (l : InterfaceLocation) : DeviceAction σ TransferType := do
  let id := (← getDevice).id
  match ← onBus ((endpointCursor id l).find (fun e => e.2.endpointAddress == address) 0) with
  | none => throw (.invalidEndpoint address)
  | some (_, e) => return e.transferType

def transfer (endpoint : UInt8) (payload : Payload) (target : InterfaceTarget)
    (timeout : Option Nat) : DeviceAction σ Transferred := do
  let location ← findInterface target
  let kind ← endpointType endpoint location
  carry endpoint payload timeout (location, kind)

def write (endpoint : UInt8) (data : List UInt8) (interface : Option UInt8)
    (timeout : Option Nat) : DeviceAction σ Nat := do
  liftResult (← transfer endpoint (.send data) (.ofNumber? interface) timeout).toWritten

def receive (endpoint : UInt8) (length : Nat) (interface : Option UInt8)
    (timeout : Option Nat) : DeviceAction σ (List UInt8) := do
  liftResult (← transfer endpoint (.receive length) (.ofNumber? interface) timeout).toData

/-- An operation on the kernel driver of an interface that the active configuration has. -/
def onDriver {α : Type} (act : HandleId → UInt8 → Action σ α) (interface : UInt8) :
    DeviceAction σ α := do
  let location ← findInterface (.number interface)
  let h ← openHandle
  onBus (act h location.descriptor.interfaceNumber)

end

/-- The operations that name interfaces by number or by default, by the types of their results. -/
inductive Named : Type → Type
  | setConfiguration (value : Option UInt8) : Named Unit
  | activeConfiguration : Named (UInt8 × ConfigurationDescriptor)
  | setAlternate (interface alternate : Option UInt8) : Named Unit
  | claim (interface : Option UInt8) : Named Unit
  | release (interface : Option UInt8) : Named Unit
  | write (endpoint : UInt8) (data : List UInt8) (interface : Option UInt8)
      (timeout : Option Nat) : Named Nat
  | read (endpoint : UInt8) (length : Nat) (interface : Option UInt8)
      (timeout : Option Nat) : Named (List UInt8)
  | reset : Named Unit
  | dispose : Named Unit
  | kernelDriverActive (interface : UInt8) : Named Bool
  | detachKernelDriver (interface : UInt8) : Named Unit
  | attachKernelDriver (interface : UInt8) : Named Unit

namespace Named

variable {σ α : Type} [Backend σ]

/-- The operation as the device performs it. -/
def cached : Named α → DeviceAction σ α
  | setConfiguration value => Device.setConfiguration value
  | activeConfiguration => Device.activeConfiguration
  | setAlternate interface alternate => Device.setAlternate (.ofNumber? interface) alternate
  | claim interface => Device.claim (.ofNumber? interface)
  | release interface => Device.release (.ofNumber? interface)
  | write endpoint data interface timeout => Device.write endpoint data interface timeout
  | read endpoint length interface timeout => Device.receive endpoint length interface timeout
  | reset => Device.reset
  | dispose => Device.dispose true
  | kernelDriverActive interface => Device.kernelDriverActive interface
  | detachKernelDriver interface => Device.detachKernelDriver interface
  | attachKernelDriver interface => Device.attachKernelDriver interface

/-- The operation as it is performed without caches. -/
def uncached : Named α → DeviceAction σ α
  | setConfiguration value => Uncached.setConfiguration value
  | activeConfiguration => Uncached.activeConfiguration
  | setAlternate interface alternate => Uncached.setAlternate (.ofNumber? interface) alternate
  | claim interface => Device.claim (.ofNumber? interface)
  | release interface => Device.release (.ofNumber? interface)
  | write endpoint data interface timeout => Uncached.write endpoint data interface timeout
  | read endpoint length interface timeout => Uncached.receive endpoint length interface timeout
  | reset => Device.reset
  | dispose => Device.dispose true
  | kernelDriverActive interface => onDriver Backend.kernelDriverActive interface
  | detachKernelDriver interface => onDriver Backend.detachKernelDriver interface
  | attachKernelDriver interface => onDriver Backend.attachKernelDriver interface

end Named

/-! What does not look into the caches does the same without them. -/

/-- The same device on buses that differ in counters only, where nothing is made to fail. -/
def Level (s t : Attachment Bus) : Prop :=
  s.device = t.device ∧ AtCore s.bus t.bus ∧ s.bus.failures = ∅

/-- The second device is the first one without its caches, on a bus like that of the first. -/
structure Mirrors (descriptor : DeviceDescriptor) (s t : Attachment Bus) : Prop where
  device : t.device = s.device.bare
  bus : AtCore s.bus t.bus
  descriptor : s.device.descriptor = descriptor
  failures : s.bus.failures = ∅

theorem simulates_level {α : Type} (d : Device) (op : Operation α) :
    Simulates (On .same Level d) ((op.renumbered .same).act : Action Bus α) op.act := by
  rw [op.renumbered_same]
  rintro b c ⟨-, hcore, hfailures⟩
  obtain ⟨ho, hafter⟩ := Bus.act_congr op hcore.symm
  exact ⟨ho, d.renumbered_same, hafter.symm, (Bus.failures_act op b).trans hfailures⟩

theorem elementary_level : Elementary .same Level where
  name := rfl
  device := fun h => by rw [h.1, Device.renumbered_same]
  openDevice d := (simulates_map_iff fun _ => rfl).2 (simulates_level d (.openDevice d.id))
  bus := fun d {_} op _ _ _ => simulates_level d op
  claim d h number := simulates_level d (.claimInterface h number)
  modify f g hfg _ := fun s t h => by
    rw [Device.eq_of_same hfg]
    exact ⟨rfl, congrArg g h.1, h.2⟩

theorem plain_level : Plain .same Level := elementary_level.inStep.plain

section

variable {descriptor : DeviceDescriptor} {α : Type}

theorem mirrors_onBus {act : Action Bus α} (h : ∀ d, Simulates (On .same Level d) act act) :
    Simulates (Mirrors descriptor) (onBus act) (onBus act) := by
  intro s t hst
  obtain ⟨ho, -, hcore, hfailures⟩ := h s.device s.bus t.bus
    ⟨s.device.renumbered_same, hst.bus, hst.failures⟩
  rw [outcome_onBus, outcome_onBus, after_onBus, after_onBus]
  exact ⟨ho, hst.device, hcore, hst.descriptor, hfailures⟩

theorem mirrors_act (op : Operation α) :
    Simulates (Mirrors descriptor) (onBus op.act : DeviceAction Bus α) (onBus op.act) :=
  mirrors_onBus fun d => by
    have hlevel := simulates_level d op
    rwa [op.renumbered_same] at hlevel

theorem mirrors_getDevice {f g : Device → DeviceAction Bus α}
    (h : ∀ d, Simulates (Mirrors descriptor) (f d) (g d.bare)) :
    Simulates (Mirrors descriptor) (getDevice >>= f) (getDevice >>= g) := by
  intro s t hst
  have hnext := h s.device s t hst
  rw [← hst.device] at hnext
  exact hnext

theorem mirrors_getHeld {f g : Holdings → DeviceAction Bus α}
    (h : ∀ held, Simulates (Mirrors descriptor) (f held) (g held.bare)) :
    Simulates (Mirrors descriptor) (getHeld >>= f) (getHeld >>= g) := by
  intro s t hst
  have hnext := h s.device.held s t hst
  have hheld : t.device.held = s.device.held.bare := congrArg Device.held hst.device
  rw [← hheld] at hnext
  exact hnext

theorem mirrors_modifyHeld {f g : Holdings → Holdings} (h : ∀ held, g held.bare = (f held).bare) :
    Simulates (Mirrors descriptor) (modifyHeld f) (modifyHeld g) := by
  intro s t hst
  refine ⟨rfl, ?_, hst.bus, hst.descriptor, hst.failures⟩
  rw [after_modifyHeld, after_modifyHeld]
  change { t.device with held := g t.device.held } = _
  rw [hst.device]
  change { s.device with held := g s.device.held.bare } = _
  rw [h]
  rfl

/-! The handle and the claims. -/

theorem mirrors_openHandle : Simulates (Mirrors descriptor) openHandle openHandle := by
  apply mirrors_getHeld
  rintro ⟨handle, _, _, _, _⟩
  cases handle with
  | some h => exact simulates_pure h
  | none =>
    apply mirrors_getDevice
    intro d
    exact (mirrors_act (.openDevice d.id)).bind fun h =>
      (mirrors_modifyHeld fun _ => by rfl).bind fun _ => simulates_pure h

theorem mirrors_closeHandle : Simulates (Mirrors descriptor) closeHandle closeHandle := by
  apply mirrors_getHeld
  rintro ⟨handle, _, _, _, _⟩
  cases handle with
  | none => exact simulates_pure _
  | some h => exact (mirrors_modifyHeld fun _ => by rfl).bind fun _ => mirrors_act (.closeDevice h)

theorem mirrors_acquire (number : UInt8) (level : Nat → Nat) :
    Simulates (Mirrors descriptor) (acquire number level) (acquire number level) := by
  rw [acquire_eq]
  have hclaim : ∀ h, Simulates (Mirrors descriptor) (claimOnce h number) (claimOnce h number) := by
    intro h
    apply mirrors_getHeld
    intro held
    exact simulates_ite (mirrors_act (.claimInterface h number)) (simulates_pure _)
  exact mirrors_openHandle.bind fun h => (hclaim h).bind fun _ => mirrors_modifyHeld fun _ => rfl

theorem mirrors_interfaceNumber (target : InterfaceTarget) :
    Simulates (Mirrors descriptor) (interfaceNumber target) (interfaceNumber target) := by
  cases target with
  | resolved location => exact simulates_pure _
  | number n => exact simulates_pure n
  | default =>
    apply mirrors_getDevice
    intro d
    exact (mirrors_act (.interfaceDescriptor d.id 0 0 0)).bind fun _ => simulates_pure _

theorem mirrors_claim (target : InterfaceTarget) :
    Simulates (Mirrors descriptor) (claim target) (claim target) :=
  (mirrors_interfaceNumber target).bind fun number => mirrors_acquire number (· + 1)

theorem mirrors_ensureClaimed (target : InterfaceTarget) :
    Simulates (Mirrors descriptor) (ensureClaimed target) (ensureClaimed target) :=
  (mirrors_interfaceNumber target).bind fun number => mirrors_acquire number (max · 1)

theorem mirrors_release (target : InterfaceTarget) :
    Simulates (Mirrors descriptor) (release target) (release target) := by
  refine (mirrors_interfaceNumber target).bind fun number => mirrors_getHeld ?_
  rintro ⟨_, _, claimed, _, _⟩
  dsimp only [Holdings.bare]
  cases claimed.get? number with
  | none => exact simulates_pure _
  | some level =>
    apply simulates_ite
    · exact mirrors_modifyHeld fun _ => rfl
    · exact mirrors_openHandle.bind fun h => (mirrors_act (.releaseInterface h number)).bind
        fun _ => mirrors_modifyHeld fun _ => rfl

theorem mirrors_releaseAll : Simulates (Mirrors descriptor) releaseAll releaseAll := by
  apply mirrors_getHeld
  rintro ⟨handle, _, claimed, _, _⟩
  refine (mirrors_modifyHeld fun _ => by rfl).bind fun _ => ?_
  cases handle with
  | none => exact simulates_pure _
  | some h => exact mirrors_onBus fun d => elementary_level.releaseEach d h claimed.keys

theorem mirrors_dispose (close : Bool) :
    Simulates (Mirrors descriptor) (dispose close) (dispose close) := by
  rw [dispose_eq]
  have hclose : Simulates (Mirrors descriptor) (closeIf close) (closeIf close) :=
    simulates_ite mirrors_closeHandle.attempted (simulates_pure _)
  exact mirrors_releaseAll.bind fun _ => hclose.bind fun _ =>
    (mirrors_modifyHeld fun _ => by rfl).bind fun _ => simulates_liftResult _

theorem mirrors_reset : Simulates (Mirrors descriptor) reset reset :=
  mirrors_openHandle.bind fun h => (mirrors_dispose false).bind fun _ =>
    (mirrors_act (.resetDevice h)).bind fun _ => mirrors_dispose true

/-! The walks through descriptors. -/

theorem mirrors_configurationByValue (value : UInt8) :
    Simulates (Mirrors descriptor) (configurationByValue value) (configurationByValue value) := by
  apply mirrors_getDevice
  intro d
  exact mirrors_onBus fun e => ((plain_level.reads e).configurationCursor d.id _).find _ 0

theorem mirrors_chooseConfiguration (value : Option UInt8) :
    Simulates (Mirrors descriptor) (chooseConfiguration value) (chooseConfiguration value) := by
  cases value with
  | none =>
    apply mirrors_getDevice
    intro d
    exact (mirrors_act (.configurationDescriptor d.id 0)).bind fun _ => simulates_pure _
  | some value =>
    refine simulates_ite (simulates_pure _) ((mirrors_configurationByValue value).bind fun r => ?_)
    cases r with
    | none => exact simulates_throw _
    | some p => exact simulates_pure _

theorem mirrors_reported (h : HandleId) :
    Simulates (Mirrors descriptor) (reported h) (reported h) := by
  refine (mirrors_act (.configuration h)).bind fun value => simulates_ite (simulates_throw _) ?_
  refine (mirrors_configurationByValue value).bind fun r => ?_
  cases r with
  | none => exact simulates_throw _
  | some p => exact simulates_pure p

theorem mirrors_findNumbered (id : DeviceId) (config numInterfaces number : UInt8) :
    Simulates (Mirrors descriptor) (findNumbered id config numInterfaces number)
      (findNumbered id config numInterfaces number) := by
  apply mirrors_getHeld
  rintro ⟨_, _, _, alternates, _⟩
  refine (mirrors_onBus fun d => (plain_level.reads d).walk.find _ _).bind fun r => ?_
  cases r with
  | some location => exact simulates_pure location
  | none => exact simulates_throw _

theorem mirrors_findTarget (target : InterfaceTarget) (config numInterfaces : UInt8) :
    Simulates (Mirrors descriptor) (findTarget target config numInterfaces)
      (findTarget target config numInterfaces) := by
  apply mirrors_getDevice
  intro d
  cases target with
  | resolved location => exact simulates_pure location
  | number n => exact mirrors_findNumbered d.id config numInterfaces n
  | default =>
    exact (mirrors_act (.interfaceDescriptor d.id 0 0 config)).bind fun r =>
      mirrors_findNumbered d.id config numInterfaces r.interfaceNumber

theorem mirrors_checkAlternate (current : InterfaceLocation) (alternate : UInt8) :
    Simulates (Mirrors descriptor) (checkAlternate current alternate)
      (checkAlternate current alternate) := by
  have hfound : ∀ number, Simulates (Mirrors descriptor)
      (hasAlternate current.config number alternate)
      (hasAlternate current.config number alternate) := by
    intro number
    apply mirrors_getDevice
    intro d
    exact (mirrors_act (.configurationDescriptor d.id current.config)).bind fun _ =>
      (mirrors_onBus fun e => (plain_level.reads e).walk.filter _ _).bind fun _ => simulates_pure _
  exact simulates_ite ((hfound _).bind fun _ => simulates_ite (simulates_throw _)
    (simulates_pure _)) (simulates_pure _)

/-! What changes the selection, and what moves data. -/

theorem mirrors_selectAlternate (number alternate : UInt8) :
    Simulates (Mirrors descriptor) (selectAlternate number alternate)
      (selectAlternate number alternate) :=
  (mirrors_ensureClaimed (.number number)).bind fun _ => mirrors_openHandle.bind fun h =>
    (mirrors_act (.setAlternate h number alternate)).bind fun _ => mirrors_modifyHeld fun _ => rfl

theorem mirrors_setConfiguration (value : Option UInt8) :
    Simulates (Mirrors descriptor) (Device.setConfiguration value) (setConfiguration value) :=
  (mirrors_chooseConfiguration value).bind fun p => mirrors_openHandle.bind fun h =>
    (mirrors_act (.setConfiguration h p.2)).bind fun _ => mirrors_modifyHeld fun _ => rfl

theorem mirrors_dataTransfer (kind : TransferType) (h : HandleId) (endpoint number : UInt8)
    (payload : Payload) (timeout : Nat) :
    Simulates (Mirrors descriptor) (dataTransfer kind h endpoint number payload timeout)
      (dataTransfer kind h endpoint number payload timeout) := by
  cases kind with
  | bulk => exact mirrors_act (.bulkTransfer h endpoint number payload timeout)
  | interrupt => exact mirrors_act (.interruptTransfer h endpoint number payload timeout)
  | isochronous => exact mirrors_act (.isochronousTransfer h endpoint number payload timeout)
  | control => exact simulates_throw _

theorem mirrors_carry (endpoint : UInt8) (payload : Payload) (timeout : Option Nat)
    (r : InterfaceLocation × TransferType) :
    Simulates (Mirrors descriptor) (carry endpoint payload timeout r)
      (carry endpoint payload timeout r) := by
  have htimeout : Simulates (Mirrors descriptor) (timeoutOr timeout) (timeoutOr timeout) := by
    apply mirrors_getDevice
    intro d
    exact simulates_pure _
  exact (mirrors_ensureClaimed _).bind fun _ => mirrors_openHandle.bind fun h =>
    htimeout.bind fun ms => mirrors_dataTransfer r.2 h endpoint _ payload ms

/-- The search for an endpoint. -/
theorem mirrors_findEndpoint (id : DeviceId) (l : InterfaceLocation)
    (test : UInt8 × EndpointDescriptor → Bool) :
    Simulates (Mirrors descriptor) (onBus ((endpointCursor id l).find test 0))
      (onBus ((endpointCursor id l).find test 0)) :=
  mirrors_onBus fun d => ((plain_level.reads d).endpointCursor id l).find test 0

end

end Uncached

end SerialBus
