import SerialBus.Proofs.Claims.Once
import SerialBus.Proofs.Loopback.Scans

/-! What a device may rely on of its backend, whatever is made to fail: its handle is its own, and
the configuration that it takes to be active is the active one. -/
namespace SerialBus

namespace Routing

open SerialBus.Action Device Session Custody
open Loopback (Bus DeviceState)

/-- A way to tell the transfer type of an endpoint from the descriptors of a device and from its
configuration. It is that of the first endpoint with the address, if that one is counted. -/
structure Typing where
  type? : DeviceState → EndpointKey → Option TransferType
  congr : ∀ {d e : DeviceState}, e.profile = d.profile → ∀ key, type? e key = type? d key
  counted : ∀ {d : DeviceState} {key : EndpointKey} {al : Loopback.Alternate}
    {e : EndpointDescriptor}, d.alternate? key.number key.alternate = some al →
      (al.endpoints.take al.descriptor.numEndpoints.toNat).find?
        (fun e => e.endpointAddress == key.address) = some e → type? d key = some e.transferType

theorem active?_congr {d e : DeviceState} (h : e.profile = d.profile) : e.active? = d.active? := by
  obtain ⟨hspec, hactive⟩ := Prod.mk.inj h
  unfold DeviceState.active?
  rw [hspec, hactive]

theorem alternate?_congr {d e : DeviceState} (h : e.profile = d.profile)
    (number alternate : UInt8) : e.alternate? number alternate = d.alternate? number alternate := by
  unfold DeviceState.alternate?
  rw [active?_congr h]

/-- What depends on the profile of a device alone. -/
theorem bind_congr_profile {α : Type} {f : DeviceState → Option α}
    (hf : ∀ {d e : DeviceState}, e.profile = d.profile → f e = f d) {x y : Option DeviceState}
    (h : y.map DeviceState.profile = x.map DeviceState.profile) : y.bind f = x.bind f := by
  cases x with
  | none => rw [Option.map_eq_none_iff.1 h]
  | some d =>
    obtain ⟨e, rfl, hprofile⟩ := Option.map_eq_some_iff.1 h
    exact hf hprofile

/-- The type of the first endpoint with the address on the alternate of the active configuration. -/
def Typing.declared : Typing where
  type? d key := (d.endpoint? key.number key.alternate key.address).map (·.transferType)
  congr h key := by
    unfold DeviceState.endpoint?
    rw [alternate?_congr h]
  counted := by
    intro d key al e hal he
    have hall : al.endpoints.find? (fun e => e.endpointAddress == key.address) = some e := by
      rw [← List.take_append_drop al.descriptor.numEndpoints.toNat al.endpoints,
        List.find?_append, he]
      rfl
    rw [DeviceState.endpoint?, hal]
    exact congrArg (Option.map _) hall

/-- The type that the alternate of a device in its active configuration has for an endpoint. -/
def Typing.of (T : Typing) (a : Attachment Bus) (key : EndpointKey) : Option TransferType :=
  (a.bus.device? a.device.id).bind fun d => T.type? d key

/-- Each transfer type that is remembered is right. -/
def Coherent (T : Typing) (a : Attachment Bus) : Prop := ∀ key kind,
  a.device.held.endpointTypes.get? key = some kind → T.of a key = some kind

/-- The configuration that the device is in. -/
def current? (a : Attachment Bus) : Option Loopback.Configuration :=
  (a.bus.device? a.device.id).bind (·.active?)

/-- The device is on the bus as it is described, and its handle is open for it. -/
structure Based (spec : Loopback.Device) (a : Attachment Bus) : Prop where
  state : ∃ d, a.bus.device? a.device.id = some d ∧ d.spec = spec
  opened : ∀ h, a.device.held.handle = some h →
    ∃ held, a.bus.handles.get? h = some held ∧ held.device = a.device.id

/-- What the device takes to be the active configuration is the one that its handle reports. -/
structure Attached (spec : Loopback.Device) (a : Attachment Bus) : Prop extends Based spec a where
  anchored : a.device.held.activeConfig.isSome → a.device.held.handle.isSome
  active : ∀ i, a.device.held.activeConfig = some i → ∃ d descriptor,
    a.bus.device? a.device.id = some d ∧ spec.Indexed d.activeConfiguration (i, descriptor)

/-- A configuration with the index is active. -/
theorem Attached.current {spec : Loopback.Device} {a : Attachment Bus} (ha : Attached spec a)
    {i : UInt8} (hi : a.device.held.activeConfig = some i) :
    ∃ c, spec.configurations[i.toNat]? = some c ∧ current? a = some c := by
  obtain ⟨d, descriptor, hd, hindexed⟩ := ha.active i hi
  obtain ⟨d', hd', rfl⟩ := ha.state
  cases hd.symm.trans hd'
  obtain ⟨c, hc, -, hvalue⟩ := hindexed.read
  refine ⟨c, hc, ?_⟩
  rw [current?, hd]
  exact hvalue

/-- The device is as it was, and the bus but for what it counts. -/
def Stays (a s : Attachment Bus) : Prop := s.device = a.device ∧ Loopback.AtCore a.bus s.bus

/-- The first alternate of a configuration with the number and the setting of the place is there. -/
def Placed (spec : Loopback.Device) (config : UInt8) (l : InterfaceLocation) : Prop :=
  ∃ c al, spec.configurations[config.toNat]? = some c ∧ Loopback.Located spec config l al ∧
    c.alternates.find? (fun b => b.descriptor.interfaceNumber == l.descriptor.interfaceNumber &&
      b.descriptor.alternateSetting == l.descriptor.alternateSetting) = some al

/-- A configuration is chosen with the index of the first one that has its value. -/
def Chosen (spec : Loopback.Device) (p : Option UInt8 × UInt8) : Prop :=
  ∀ i, p.1 = some i → ∃ descriptor, spec.Indexed p.2 (i, descriptor)

section

variable {α : Type} {spec : Loopback.Device} {a : Attachment Bus}

/-! Searches leave the device as it is. -/

theorem meets_getDevice : Meets (Stays a) (getDevice : DeviceAction Bus Device) (· = a.device) := by
  intro s hs
  refine ⟨hs, fun d hd => ?_⟩
  rw [outcome_getDevice] at hd
  cases hd
  exact hs.1

theorem meets_getHeld :
    Meets (Stays a) (getHeld : DeviceAction Bus Holdings) (· = a.device.held) := by
  intro s hs
  refine ⟨hs, fun held hheld => ?_⟩
  rw [outcome_getHeld] at hheld
  cases hheld
  rw [hs.1]

theorem meets_onBus {act : Action Bus α} {R : α → Prop}
    (h : Meets (Loopback.AtCore a.bus) act R) : Meets (Stays a) (onBus act) R := by
  intro s hs
  obtain ⟨hafter, hresult⟩ := h s.bus hs.2
  rw [after_onBus, outcome_onBus]
  exact ⟨⟨hs.1, hafter⟩, hresult⟩

/-- A search that was made leaves the device, and the bus but for what it counts. -/
theorem stays_after {act : DeviceAction Bus α} {R : α → Prop} (h : Meets (Stays a) act R) :
    Stays a (after act a) := (h a ⟨rfl, rfl⟩).1

theorem fit_of_outcome {act : DeviceAction Bus α} {R : α → Prop} (h : Meets (Stays a) act R) {r : α}
    (ho : outcome act a = .ok r) : R r := (h a ⟨rfl, rfl⟩).2 r ho

variable {d : DeviceState} (hd : a.bus.device? a.device.id = some d)

include hd

theorem meets_configurationByValue (value : UInt8) :
    Meets (Stays a) (configurationByValue value) fun r => ∀ p, r = some p →
      d.spec.Indexed value p := by
  unfold configurationByValue
  apply meets_getDevice.bind
  rintro _ rfl
  have hfind := Loopback.meets_findConfiguration hd a.device.descriptor.numConfigurations value
  exact meets_onBus hfind

theorem meets_chooseConfiguration (value : Option UInt8) :
    Meets (Stays a) (chooseConfiguration value) (Chosen d.spec) := by
  cases value with
  | none =>
    unfold chooseConfiguration
    apply meets_getDevice.bind
    rintro _ rfl
    refine (meets_onBus (Loopback.meets_configurationDescriptor hd 0)).map fun r hr i hi => ?_
    obtain ⟨c, hc, rfl⟩ := hr
    cases hi
    have hfirst : d.spec.Indexed c.descriptor.configurationValue (0, c.descriptor) :=
      Loopback.indexed_of_first hc (by decide) (beq_self_eq_true _) fun j hj =>
        absurd hj (Nat.not_lt_zero j)
    exact ⟨c.descriptor, hfirst⟩
  | some value =>
    unfold chooseConfiguration
    dsimp only
    split
    · exact meets_pure nofun
    · apply (meets_configurationByValue hd value).bind
      intro r hr
      cases r with
      | none => exact meets_throw _
      | some p =>
        refine meets_pure fun i hi => ?_
        cases hi
        exact ⟨p.2, hr p rfl⟩

/-- What the handle reports is the first configuration with the active value. -/
theorem meets_reported {h : HandleId} {held : Loopback.Handle}
    (hh : a.bus.handles.get? h = some held) (hown : held.device = a.device.id) :
    Meets (Stays a) (reported h) (d.spec.Indexed d.activeConfiguration) := by
  have hread : Meets (Loopback.AtCore a.bus) (Backend.configuration h : Action Bus UInt8) fun r =>
      r = d.activeConfiguration := by
    refine Loopback.meets_of_core (Bus.core_configuration h) fun b r hb ho => ?_
    change outcome (Bus.configuration h) b = _ at ho
    rw [Bus.configuration_eq_serve] at ho
    rcases Bus.serve_cases .getConfiguration none _ b with ⟨e, he, -⟩ | ⟨r', change, ha, hr, -⟩
    · rw [he] at ho
      cases ho
    · rw [hr] at ho
      cases ho
      obtain ⟨held', hh', ha⟩ := Bus.withHandle_eq_ok.1 ha
      rw [hb.handles, hh] at hh'
      cases hh'
      obtain ⟨d', hd', ha⟩ := Bus.withDevice_eq_ok.1 ha
      rw [hb.device?, hown, hd] at hd'
      cases hd'
      split at ha <;> cases ha
      rfl
  unfold reported
  apply (meets_onBus hread).bind
  rintro _ rfl
  dsimp only
  split
  · exact meets_throw _
  · apply (meets_configurationByValue hd d.activeConfiguration).bind
    intro r hr
    cases r with
    | none => exact meets_throw _
    | some p => exact meets_pure (hr p rfl)

variable (hassembled : d.spec.Assembled)

include hassembled

theorem meets_findNumbered {config : UInt8} {c : Loopback.Configuration}
    (hc : d.spec.configurations[config.toNat]? = some c) (numInterfaces number : UInt8) :
    Meets (Stays a) (findNumbered a.device.id config numInterfaces number)
      (Placed d.spec config) := by
  unfold findNumbered
  apply meets_getHeld.bind
  rintro _ rfl
  let w : InterfaceWalk := { device := a.device.id, config, numInterfaces }
  have hfind := Loopback.meets_findUpTo hd
    (isWanted number (a.device.held.alternates.get? number)) w.remaining (w := w) rfl
  apply (meets_onBus hfind).bind
  intro r hr
  cases r with
  | none => exact meets_throw _
  | some l =>
    obtain ⟨-, hfound⟩ := hr l rfl
    have hmem := List.mem_of_getElem? hc
    have hconfiguration := hassembled.each c hmem
    obtain ⟨al, hl, hfirst⟩ :=
      hfound.alternate rfl hc hconfiguration.regular hconfiguration.grouped
    exact meets_pure ⟨c, al, hc, hl, hfirst⟩

/-- An interface that is named is found at the first place with its number and setting. -/
theorem meets_findTarget {config : UInt8} {c : Loopback.Configuration}
    (hc : d.spec.configurations[config.toNat]? = some c) (interface : Option UInt8)
    (numInterfaces : UInt8) :
    Meets (Stays a) (findTarget (.ofNumber? interface) config numInterfaces)
      (Placed d.spec config) := by
  unfold findTarget
  apply meets_getDevice.bind
  rintro _ rfl
  cases interface with
  | some n => exact meets_findNumbered hd hassembled hc numInterfaces n
  | none =>
    exact (meets_onBus (Loopback.meets_interfaceDescriptor hd 0 0 config)).bind fun r _ =>
      meets_findNumbered hd hassembled hc numInterfaces r.interfaceNumber

end

/-- The first endpoint that is found on an alternate of the active configuration has the type. -/
theorem Typing.of_placed (T : Typing) {spec : Loopback.Device} {a : Attachment Bus}
    {c : Loopback.Configuration} (hcurrent : current? a = some c) {config : UInt8}
    (hc : spec.configurations[config.toNat]? = some c) {l : InterfaceLocation}
    (hl : Placed spec config l) : ∃ al, Loopback.Located spec config l al ∧ ∀ address e,
      (al.endpoints.take l.descriptor.numEndpoints.toNat).find?
        (fun e => e.endpointAddress == address) = some e →
          T.of a ⟨address, l.descriptor.interfaceNumber, l.descriptor.alternateSetting⟩ =
            some e.transferType := by
  obtain ⟨c', al, hc', hplace, hfirst⟩ := hl
  cases hc.symm.trans hc'
  obtain ⟨d, hd, hactive⟩ := Option.bind_eq_some_iff.1 hcurrent
  refine ⟨al, hplace, fun address e he => ?_⟩
  have halternate : d.alternate? l.descriptor.interfaceNumber l.descriptor.alternateSetting =
      some al := by
    rw [DeviceState.alternate?, hactive]
    exact hfirst
  rw [hplace.descriptor] at he
  rw [Typing.of, hd, Option.bind_some]
  exact T.counted halternate he

end Routing

end SerialBus
