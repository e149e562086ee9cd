import SerialBus.Proofs.Device.Effects
import SerialBus.Proofs.Loopback.Places
import SerialBus.Proofs.Loopback.Profile
import SerialBus.Proofs.Loopback.Working

/-! When a device on a loopback bus is what its profile says. The device holds the same claims and
alternates as the bus, and what it keeps in its caches is what it would read again. -/
namespace SerialBus.Loopback.Profile

open SerialBus.Action SerialBus.Device

/-- The handle is open for the device, with what the device holds. -/
def Open (id : DeviceId) (b : Bus) (held : Holdings) (h : HandleId) : Prop :=
  ∃ r, b.handles.get? h = some r ∧ r.device = id ∧ r.alternates = held.alternates ∧
    ∀ n, r.claimed.contains n = held.claimed.contains n

structure Represents (id : DeviceId) (p : Profile) (a : Attachment Bus) : Prop where
  device : a.device.id = id
  descriptor : a.device.descriptor = p.state.spec.descriptor
  failures : a.bus.failures = ∅
  state : a.bus.device? id = some p.state
  closed : a.device.held.handle = none →
    a.device.held.claimed = ∅ ∧ a.device.held.alternates = ∅
  opened : ∀ h, a.device.held.handle = some h → Open id a.bus a.device.held h
  alternates : a.device.held.alternates = p.alternates
  selected : p.selected = true → a.device.held.activeConfig.isSome
  active : ∀ i, a.device.held.activeConfig = some i →
    (p.selected || p.state.spec.reportsConfiguration) = true ∧
      ∃ c, p.state.spec.configurations[i.toNat]? = some c ∧ p.state.active? = some c
  endpointTypes : ∀ key kind, a.device.held.endpointTypes.get? key = some kind →
    ∃ e, p.state.endpoint? key.number key.alternate key.address = some e ∧ e.transferType = kind

section

variable {id : DeviceId} {p : Profile} {α : Type}

/-- Counters do not matter. -/
theorem Represents.atCore {d : SerialBus.Device} {b c : Bus} (h : Represents id p ⟨d, c⟩)
    (hb : AtCore c b) : Represents id p ⟨d, b⟩ where
  device := h.device
  descriptor := h.descriptor
  failures := hb.failures.trans h.failures
  state := (hb.device? id).trans h.state
  closed := h.closed
  opened i hi := by
    rw [Open, hb.handles]
    exact h.opened i hi
  alternates := h.alternates
  selected := h.selected
  active := h.active
  endpointTypes := h.endpointTypes

/-- The operation gives the result wherever the device is represented, and leaves it so. -/
def Reads (id : DeviceId) (p : Profile) (act : DeviceAction Bus α) (r : Except UsbError α) : Prop :=
  Gives (Represents id p) act r (Represents id p)

/-- To read the descriptors of the device is to read. -/
theorem reads_onBus {act : Action Bus α} {r : Except UsbError α}
    (h : ∀ c : Bus, c.failures = ∅ → c.device? id = some p.state →
      Gives (AtCore c) act r (AtCore c)) : Reads id p (onBus act) r := by
  intro a ha
  obtain ⟨ho, hc⟩ := h a.bus ha.failures ha.state a.bus rfl
  rw [outcome_onBus, after_onBus]
  exact ⟨ho, ha.atCore hc⟩

/-- The device is represented, with this handle open. -/
def Ready (id : DeviceId) (p : Profile) (h : HandleId) (a : Attachment Bus) : Prop :=
  Represents id p a ∧ a.device.held.handle = some h

/-- The entry of the open handle on the bus. -/
theorem Represents.entry {a : Attachment Bus} (ha : Represents id p a) {h : HandleId}
    (hh : a.device.held.handle = some h) : ∃ r, a.bus.handles.get? h = some r ∧ r.device = id ∧
      a.bus.device? r.device = some p.state ∧ r.alternates = a.device.held.alternates ∧
      ∀ n, r.claimed.contains n = a.device.held.claimed.contains n := by
  obtain ⟨r, hr, rfl, halternates, hclaimed⟩ := ha.opened h hh
  exact ⟨r, hr, rfl, ha.state, halternates, hclaimed⟩

theorem succeeds_openHandle : Succeeds (Represents id p) openHandle (Ready id p) := by
  intro a ha
  cases hh : a.device.held.handle with
  | some h =>
    obtain ⟨ho, hs⟩ := eq_ok_iff.1 (openHandle_of_some hh)
    rw [ho, hs]
    exact ⟨h, rfl, ha, hh⟩
  | none =>
    obtain ⟨hclaimed, halternates⟩ := ha.closed hh
    obtain ⟨ho, hs⟩ := Bus.openDevice_works ha.failures ha.state
    rw [outcome_openHandle_of_none hh, after_openHandle_of_none hh, ha.device, ho, hs]
    refine ⟨_, rfl, ⟨ha.device, ha.descriptor, ha.failures, ha.state, nofun, fun i hi => ?_,
      ha.alternates, ha.selected, ha.active, ha.endpointTypes⟩, rfl⟩
    cases hi
    refine ⟨_, Table.get?_insert_self, rfl, halternates.symm, fun n => ?_⟩
    simp only [Attachment.hold, hclaimed]
    rfl

/-- The profile says what is active while it is known. -/
theorem Represents.configuration_of_some {a : Attachment Bus} (ha : Represents id p a) {i : UInt8}
    (hi : a.device.held.activeConfig = some i) :
    ∃ c, p.configuration = .ok c ∧ p.state.spec.configurations[i.toNat]? = some c := by
  obtain ⟨hknown, c, hc, hactive⟩ := ha.active i hi
  refine ⟨c, ?_, hc⟩
  rw [configuration, if_pos hknown, hactive]

/-- What was found to be active may be kept. -/
theorem Represents.remember {a : Attachment Bus} (ha : Represents id p a)
    (hknown : (p.selected || p.state.spec.reportsConfiguration) = true) {i : UInt8}
    {c : Configuration} (hc : p.state.spec.configurations[i.toNat]? = some c)
    (hactive : p.state.active? = some c) :
    Represents id p (after (modifyHeld ({ · with activeConfig := some i })) a) := by
  refine ⟨ha.device, ha.descriptor, ha.failures, ha.state, ha.closed, ha.opened, ha.alternates,
    fun _ => rfl, fun j hj => ?_, ha.endpointTypes⟩
  cases hj
  exact ⟨hknown, c, hc, hactive⟩

/-- What is found of an endpoint may be kept. -/
theorem Represents.rememberType {a : Attachment Bus} (ha : Represents id p a) {key : EndpointKey}
    {e : EndpointDescriptor}
    (he : p.state.endpoint? key.number key.alternate key.address = some e) :
    Represents id p (after (modifyHeld fun held => { held with
      endpointTypes := held.endpointTypes.insert key e.transferType }) a) := by
  refine ⟨ha.device, ha.descriptor, ha.failures, ha.state, ha.closed, ha.opened, ha.alternates,
    ha.selected, ha.active, fun k kind hk => ?_⟩
  by_cases h : key = k
  · subst h
    rw [after_modifyHeld, Table.get?_insert_self] at hk
    cases hk
    exact ⟨e, he, rfl⟩
  · rw [after_modifyHeld, Table.get?_insert_of_ne h] at hk
    exact ha.endpointTypes k kind hk

variable (hregular : p.state.spec.Regular) (hfits : p.state.spec.Fits)

include hregular hfits

/-- The search for a configuration by its value finds the first one, with its index. -/
theorem reads_configurationByValue (value : UInt8) :
    Reads id p (SerialBus.Device.configurationByValue value)
      (.ok ((numbered (·.descriptor) p.state.spec.configurations).find? fun c =>
        c.2.configurationValue == value)) := by
  intro a ha
  have hcount : a.device.descriptor.numConfigurations.toNat = p.state.spec.configurations.length := by
    rw [ha.descriptor, hregular.numConfigurations, toNat_toUInt8]
    have := hfits.configurations
    omega
  have hfind := reads_onBus (fun c hf hd => gives_findConfiguration hf hd hfits.configurations
    fun c => c.2.configurationValue == value) a ha
  rw [SerialBus.Device.configurationByValue, outcome_bind_ok _ (outcome_getDevice a),
    after_bind_ok _ (outcome_getDevice a), after_getDevice, ha.device, hcount]
  exact hfind

omit hregular in
theorem configurationByValue_cases (value : UInt8) :
    (numbered (·.descriptor) p.state.spec.configurations).find?
          (fun c => c.2.configurationValue == value) = none ∧
        p.state.spec.configurationByValue? value = none ∨
      ∃ i c, (numbered (·.descriptor) p.state.spec.configurations).find?
            (fun c => c.2.configurationValue == value) = some (i, c.descriptor) ∧
          p.state.spec.configurationByValue? value = some c ∧
          p.state.spec.configurations[i.toNat]? = some c := by
  have hlen := hfits.configurations
  rcases find?_of_forall₂ (forall₂_numbered (·.descriptor) p.state.spec.configurations
      (by omega)) (p := fun c => c.2.configurationValue == value)
      (q := fun c => c.descriptor.configurationValue == value)
      (fun x c h => by rw [h.1]) with h | ⟨⟨i, k⟩, c, hx, hc, hk, hi⟩
  · exact .inl h
  · cases hk
    exact .inr ⟨i, c, hx, hc, hi⟩

end

end SerialBus.Loopback.Profile
