import SerialBus.Proofs.Claims.Settled
import SerialBus.Proofs.Device.Control
import SerialBus.Proofs.Loopback.Frames
import SerialBus.Proofs.Profile.Disposal

/-! What a loopback device remembers of vendor requests. It keeps the data that the last one has sent
and hands it out to those that read; a reset makes it forget, and nothing else changes it. -/
namespace SerialBus

/-- How many bytes a control transfer asks for if it reads. -/
def ControlData.asked : ControlData → Nat
  | .none => 0
  | .bytes data => data.length
  | .length n => n

theorem ControlData.payload_toHost (data : ControlData) :
    data.payload .toHost = .ok (.receive data.asked) := by
  cases data <;> rfl

/-- Only a length is no payload for a device. -/
theorem ControlData.payload_toDevice (data : ControlData) :
    (∃ n, data = .length n) ∨ ∃ payload, data.payload .toDevice = .ok (.send payload) := by
  cases data with
  | none => exact .inr ⟨[], rfl⟩
  | bytes payload => exact .inr ⟨payload, rfl⟩
  | length n => exact .inl ⟨n, rfl⟩

/-- Whether a control request hands over data to be remembered. -/
def Setup.stores (setup : Setup) : Bool :=
  requestKind setup.requestType == .vendor && requestDirection setup.requestType == .toDevice

theorem Setup.stores_eq_true {setup : Setup} :
    setup.stores = true ↔ requestKind setup.requestType = .vendor ∧
      requestDirection setup.requestType = .toDevice := by
  rw [Setup.stores, Bool.and_eq_true, beq_iff_eq, beq_iff_eq]

namespace Loopback.Bus

open SerialBus.Action

variable {α : Type} {b c : Bus}

/-- What a device remembers, if it is on the bus. -/
def memory? (b : Bus) (id : DeviceId) : Option (List UInt8) :=
  (b.device? id).map DeviceState.controlBuffer

theorem memory?_of_devices (h : c.devices = b.devices) (id : DeviceId) :
    c.memory? id = b.memory? id := by
  unfold memory? device?
  rw [h]

theorem memory?_modifyDevice (b : Bus) (i id : DeviceId) (f : DeviceState → DeviceState) :
    (b.modifyDevice i f).memory? id =
      if i = id then (b.device? id).map fun d => (f d).controlBuffer else b.memory? id := by
  rw [memory?, device?_modifyDevice]
  split
  next heq =>
    subst heq
    rw [Option.map_map]
    rfl
  next => rfl

/-- What all devices remember stays as it is. -/
def remembering : Evolution Bus where
  rel := Same DeviceState.controlBuffer
  refl _ _ := rfl
  trans h g := fun id => (g id).trans (h id)

theorem remembering_of_core_eq (h : c.core = b.core) : remembering.rel b c :=
  same_of_devices (congrArg (·.devices) h)

theorem controlBuffer_controlStore {d e : DeviceState} {setup : Setup} {data : List UInt8}
    (hkind : requestKind setup.requestType ≠ .vendor)
    (hstore : controlStore d setup data = .ok e) : e.controlBuffer = d.controlBuffer := by
  unfold controlStore at hstore
  cases hk : requestKind setup.requestType with
  | vendor => exact absurd hk hkind
  | standard =>
    simp only [hk] at hstore
    split at hstore
    · cases hstore
      split <;> rfl
    · split at hstore <;> cases hstore
      split <;> rfl
  | classSpecific => simp [hk] at hstore
  | reserved => simp [hk] at hstore

theorem remembering_controlTransfer (h : HandleId) {setup : Setup} (hs : setup.stores = false)
    (payload : Payload) (timeout : Nat) :
    Keeps remembering (Backend.controlTransfer h setup payload timeout : Action Bus _) := by
  intro b
  rcases controlTransfer_cases h setup payload timeout b with
    ⟨e, -, hc⟩ | ⟨held, d, -, hd, ⟨length, data, -, -, -, -, hc⟩ |
      ⟨data, e, hdirection, -, hstore, -, ha⟩⟩
  · exact remembering_of_core_eq hc
  · exact remembering_of_core_eq hc
  · have hkind : requestKind setup.requestType ≠ .vendor := by
      intro hvendor
      simp [Setup.stores, hvendor, hdirection] at hs
    change remembering.rel b (after (controlTransfer h setup payload timeout) b)
    rw [ha]
    refine @same_modifyDevice (b.counted .ctrlTransfer (some timeout)) _ _ held.device _ ?_
    intro other hother
    cases hd.symm.trans hother
    exact controlBuffer_controlStore hkind hstore

theorem remembering_act (op : Operation α) (hs : op.isStandard) :
    Keeps remembering (op.act : Action Bus α) := by
  intro b
  cases hstores : op.stores with
  | false =>
    have hsame : SameStored b (after op.act b) := sameStored_act op hstores b
    intro id
    have hfirst := congrArg (Option.map Prod.fst) (hsame id)
    rw [Option.map_map, Option.map_map] at hfirst
    exact hfirst
  | true =>
    cases op with
    | controlTransfer h setup payload timeout =>
      have hkind : requestKind setup.requestType = .standard := beq_iff_eq.1 hs
      have hkeeps : setup.stores = false := by
        rw [Setup.stores, hkind]
        rfl
      exact remembering_controlTransfer h hkeeps payload timeout b
    | resetDevice h => cases hs
    | clearHalt h endpoint =>
      rcases clearHalt_cases h endpoint b with ⟨e, -, hc⟩ | ⟨held, -, -, ha⟩
      · exact remembering_of_core_eq hc
      · change remembering.rel b (after (clearHalt h endpoint) b)
        rw [ha]
        exact @same_modifyDevice (b.counted .clearHalt none) _ _ held.device _ fun _ _ => rfl
    | _ => cases hstores

end Loopback.Bus

namespace Device

open SerialBus.Action Custody
open Loopback (Bus)
open Loopback.Bus (remembering)

/-- Nothing but resets and vendor requests with data changes what devices remember. -/
theorem remembering_use (u : Use) (hr : u ≠ .call .reset)
    (hs : ∀ setup data timeout, u = .call (.control setup data timeout) → setup.stores = false) :
    Keeps remembering.ofBus (u.perform : DeviceAction Bus Unit) := by
  refine BusEvolution.keeps_use Bus.remembering_act u (fun hu => absurd hu hr) ?_
  intro setup data timeout hu
  have hopen := BusEvolution.opening Bus.remembering_act
  exact keeps_controlTransfer hopen (fun _ h payload ms =>
    Bus.remembering_controlTransfer h (hs setup data timeout hu) payload ms) data timeout

/-! Control transfers by what they give. -/

/-- A length is no payload for a device, so nothing is opened and nothing is sent. -/
theorem controlTransfer_of_length {σ : Type} [Backend σ] {setup : Setup}
    (hdirection : requestDirection setup.requestType = .toDevice) (n : Nat)
    (timeout : Option Nat) (a : Attachment σ) :
    controlTransfer setup (.length n) timeout a =
      .error (.invalidArgument
        "host-to-device control transfer needs a payload, not a length") a := by
  unfold controlTransfer
  rw [hdirection]
  rfl

theorem length_padded (length : Nat) (data : List UInt8) :
    (Bus.padded length data).length = length := by
  simp only [Bus.padded, List.length_append, List.length_take, List.length_replicate]
  omega

theorem length_controlReply {d : Loopback.DeviceState} {held : Loopback.Handle} {setup : Setup}
    {length : Nat} {reply : List UInt8} (h : Bus.controlReply d held setup length = .ok reply) :
    reply.length ≤ length := by
  unfold Bus.controlReply at h
  split at h
  · obtain ⟨whole, -, rfl⟩ := Bus.map_eq_ok.1 h
    exact List.length_take_le _ _
  · cases h
    exact Nat.le_of_eq (length_padded _ _)
  · cases h

/-- What is read is never more than what was asked for. -/
theorem controlTransfer_bounded {a : Attachment Bus} {setup : Setup} {data : ControlData}
    {timeout : Option Nat} {r : Transferred}
    (hdirection : requestDirection setup.requestType = .toHost)
    (h : outcome (controlTransfer setup data timeout) a = .ok r) :
    ∃ reply, r = .read reply ∧ reply.length ≤ data.asked := by
  unfold controlTransfer at h
  obtain ⟨payload, hpayload, h⟩ := outcome_bind_eq_ok.1 h
  rw [outcome_liftResult, hdirection, ControlData.payload_toHost] at hpayload
  cases hpayload
  obtain ⟨i, -, h⟩ := outcome_bind_eq_ok.1 h
  obtain ⟨ms, -, h⟩ := outcome_bind_eq_ok.1 h
  rw [outcome_onBus] at h
  generalize Attachment.bus _ = b at h
  change outcome (Bus.controlTransfer i setup (.receive data.asked) ms) b = .ok r at h
  rcases Bus.controlTransfer_cases i setup (.receive data.asked) ms b with
    ⟨e, he, -⟩ | ⟨held, d, -, -, ⟨length, reply, -, hlength, hreply, ho, -⟩ |
      ⟨sent, e, hdevice, -⟩⟩
  · cases he.symm.trans h
  · cases hlength
    cases ho.symm.trans h
    exact ⟨reply, rfl, length_controlReply hreply⟩
  · cases hdirection.symm.trans hdevice

section

variable {a : Attachment Bus} {setup : Setup}

/-- A vendor request that reads gets what is remembered, cut or filled up to what it asks for. -/
theorem controlTransfer_recalls (hf : a.bus.failures = ∅) (ha : Usable a.device a.bus)
    (hkind : requestKind setup.requestType = .vendor)
    (hdirection : requestDirection setup.requestType = .toHost) (data : ControlData)
    (timeout : Option Nat) :
    outcome (controlTransfer setup data timeout) a =
      .ok (.read (Bus.padded data.asked ((a.bus.memory? a.device.id).getD []))) := by
  obtain ⟨h, held, c, ho⟩ := exists_opens hf ha
  obtain ⟨state, hstate⟩ := Option.isSome_iff_exists.1 ha.present
  have hc : c.device? held.device = some state := by
    rw [ho.device, ho.device?]
    exact hstate
  have hpayload : data.payload (requestDirection setup.requestType) =
      .ok (.receive data.asked) := by
    rw [hdirection]
    exact data.payload_toHost
  have hread := Bus.controlTransfer_reads ho.failures ho.handle hc data.asked
    (timeout.getD a.device.defaultTimeout) hdirection
  have hreply : Bus.controlReply state held setup data.asked =
      .ok (Bus.padded data.asked state.controlBuffer) := by
    rw [Bus.controlReply, hkind]
  have hmemory : a.bus.memory? a.device.id = some state.controlBuffer := by
    rw [Bus.memory?, hstate]
    rfl
  rw [hreply] at hread
  rw [hmemory]
  exact (ho.controlTransfer hpayload timeout).1.trans hread

/-- A vendor request with data is taken, and its data is what the device remembers then. -/
theorem controlTransfer_memorizes (hf : a.bus.failures = ∅) (ha : Usable a.device a.bus)
    (hs : setup.stores = true) {data : ControlData} {payload : List UInt8}
    (hdata : data.payload .toDevice = .ok (.send payload)) (timeout : Option Nat) :
    outcome (controlTransfer setup data timeout) a = .ok (.written payload.length) ∧
      ∀ id, (after (controlTransfer setup data timeout) a).bus.memory? id =
        if a.device.id = id then (a.bus.memory? id).map fun _ => payload
        else a.bus.memory? id := by
  obtain ⟨hkind, hdirection⟩ := Setup.stores_eq_true.1 hs
  obtain ⟨h, held, c, ho⟩ := exists_opens hf ha
  obtain ⟨state, hstate⟩ := Option.isSome_iff_exists.1 ha.present
  have hc : c.device? held.device = some state := by
    rw [ho.device, ho.device?]
    exact hstate
  have hstore : Bus.controlStore state setup payload =
      .ok { state with controlBuffer := payload } := by
    rw [Bus.controlStore, hkind]
  rw [← hdirection] at hdata
  obtain ⟨hout, hafter⟩ := ho.controlTransfer hdata timeout
  obtain ⟨hworks, hstored⟩ := Bus.controlTransfer_works ho.failures ho.handle hc
    (timeout.getD a.device.defaultTimeout) hdirection hstore
  refine ⟨hout.trans hworks, fun id => ?_⟩
  rw [hafter]
  change (after (Backend.controlTransfer h setup (.send payload)
    (timeout.getD a.device.defaultTimeout) : Action Bus _) c).memory? id = _
  rw [hstored, Bus.memory?_modifyDevice, ho.device]
  have hsame : c.memory? id = a.bus.memory? id := Bus.memory?_of_devices ho.devices id
  split
  next heq =>
    subst heq
    have hd : (c.counted .ctrlTransfer
        (some (timeout.getD a.device.defaultTimeout))).device? a.device.id = some state :=
      (ho.device? a.device.id).trans hstate
    rw [hd, Bus.memory?, hstate]
    rfl
  next => exact hsame

theorem usable_of_owned (hown : Owned a.device a.bus)
    (hpresent : (a.bus.device? a.device.id).isSome) : Usable a.device a.bus where
  present := hpresent
  handle h hh := by
    obtain ⟨claimed, howner, -⟩ := hown.opened h hh
    obtain ⟨held, hget, hid, -⟩ := Bus.owner_eq_some.1 howner
    exact ⟨held, hget, hid⟩

/-- A reset works if nothing is made to fail, and the device remembers nothing then. -/
theorem reset_forgets (hf : a.bus.failures = ∅) (hall : Allocated a.bus)
    (hown : Owned a.device a.bus) (hpresent : (a.bus.device? a.device.id).isSome) :
    outcome reset a = .ok () ∧ ∀ id, (after reset a).bus.memory? id =
      if a.device.id = id then (a.bus.memory? id).map fun _ => [] else a.bus.memory? id := by
  obtain ⟨h, held, c, ho⟩ := exists_opens hf (usable_of_owned hown hpresent)
  obtain ⟨state, hstate⟩ := Option.isSome_iff_exists.1 hpresent
  let opened : Attachment Bus := a.hold ({ · with handle := some h }) c
  have hopened : after openHandle a = opened := (eq_ok_iff.1 ho.eq_ok).2
  have hwhole : reset a = (dispose false >>= fun _ => onBus (Backend.resetDevice h) >>= fun _ =>
      dispose true : DeviceAction Bus Unit) opened := bind_eq_of_ok _ ho.eq_ok
  have hheld : Owned opened.device opened.bus := by
    have hkept := (keeps_openHandle mirror_id a hall hown).2.1
    rw [hopened] at hkept
    exact hkept
  have hholding : Loopback.Profile.Holding a.device.id a.device.descriptor state opened := by
    refine ⟨rfl, rfl, ho.failures, (ho.device? a.device.id).trans hstate, fun i hi => ?_⟩
    obtain ⟨claimed, howner, hsub⟩ := hheld.opened i hi
    obtain ⟨r, hget, hid, rfl⟩ := Bus.owner_eq_some.1 howner
    exact ⟨r, hget, hid, hsub⟩
  obtain ⟨hout, -, hdevices, -⟩ := Loopback.Profile.reset_works hholding (h := h) rfl
  rw [outcome_congr hwhole, after_congr hwhole]
  refine ⟨hout, fun id => ?_⟩
  rw [Bus.memory?_of_devices hdevices, Bus.memory?_modifyDevice]
  have hsame : c.memory? id = a.bus.memory? id := Bus.memory?_of_devices ho.devices id
  split
  next heq =>
    rw [← hsame, Bus.memory?, Option.map_map]
    rfl
  next => exact hsame

end

end Device

end SerialBus
