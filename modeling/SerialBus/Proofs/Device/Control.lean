import SerialBus.Device.StandardRequest
import SerialBus.Proofs.Device.Effects
import SerialBus.Proofs.Loopback.Working

/-! Control transfers of a device on a loopback bus where nothing is made to fail: the handle is
opened if there is none, and what the bus answers is what the device returns. -/
namespace SerialBus.Device

open SerialBus.Action
open Loopback (Bus)

/-- The device is on the bus, and its handle is open for it if it has one. -/
structure Usable (d : Device) (b : Bus) : Prop where
  present : (b.device? d.id).isSome
  handle : ∀ h, d.held.handle = some h →
    ∃ held, b.handles.get? h = some held ∧ held.device = d.id

/-- What it comes to when a device opens its handle `h`, which leads to the bus `c`. -/
structure Opens (a : Attachment Bus) (h : HandleId) (held : Loopback.Handle) (c : Bus) : Prop where
  eq_ok : openHandle a = .ok h (a.hold ({ · with handle := some h }) c)
  handle : c.handles.get? h = some held
  device : held.device = a.device.id
  devices : c.devices = a.bus.devices
  failures : c.failures = ∅

variable {a : Attachment Bus} {h : HandleId} {held : Loopback.Handle} {c : Bus}

theorem exists_opens (hf : a.bus.failures = ∅) (ha : Usable a.device a.bus) :
    ∃ h held c, Opens a h held c := by
  obtain ⟨d, hd⟩ := Option.isSome_iff_exists.1 ha.present
  cases hh : a.device.held.handle with
  | some h =>
    obtain ⟨held, hget, hdevice⟩ := ha.handle h hh
    have hsame : a.hold ({ · with handle := some h }) a.bus = a := by
      rw [← hh]
      rfl
    refine ⟨h, held, a.bus, ?_, hget, hdevice, rfl, hf⟩
    rw [openHandle_of_some hh, hsame]
  | none =>
    obtain ⟨ho, hs⟩ := Loopback.Bus.openDevice_works hf hd
    have hopen := openHandle_of_none (a := a) hh
    rw [eq_ok_iff.2 ⟨ho, hs⟩] at hopen
    exact ⟨_, _, _, hopen, Table.get?_insert_self, rfl, rfl, hf⟩

namespace Opens

variable (ho : Opens a h held c)

include ho

theorem device? (id : DeviceId) : c.device? id = a.bus.device? id := by
  rw [Loopback.Bus.device?, ho.devices, Loopback.Bus.device?]

/-- A control transfer is made on the open handle, with the timeout given or the default one. -/
theorem controlTransfer {setup : Setup} {data : ControlData} {payload : Payload}
    (hpayload : data.payload (requestDirection setup.requestType) = .ok payload)
    (timeout : Option Nat) :
    let act := Loopback.Bus.controlTransfer h setup payload
      (timeout.getD a.device.defaultTimeout)
    outcome (controlTransfer setup data timeout) a = outcome act c ∧
      after (Device.controlTransfer setup data timeout) a =
        a.hold ({ · with handle := some h }) (after act c) := by
  intro act
  have hwhole : Device.controlTransfer setup data timeout a =
      SerialBus.onBus act (a.hold ({ · with handle := some h }) c) := by
    unfold Device.controlTransfer
    rw [hpayload]
    change (openHandle >>= fun h => timeoutOr timeout >>= fun timeout =>
      SerialBus.onBus (Backend.controlTransfer h setup payload timeout)) a = _
    rw [bind_eq_of_ok _ ho.eq_ok]
    rfl
  rw [outcome_congr hwhole, after_congr hwhole, outcome_onBus, after_onBus]
  exact ⟨rfl, rfl⟩

/-- A standard request for a reply of known length returns the reply. -/
theorem readExact {state : Loopback.DeviceState} (hstate : a.bus.device? a.device.id = some state)
    {recipient : Recipient} {request : UInt8} {index : UInt16} {reply : List UInt8}
    (hreply : Loopback.Bus.standardReply state held
      ⟨requestType .toHost .standard recipient, request, 0, index⟩ = .ok reply) :
    outcome (readExact recipient request index reply.length) a = .ok reply := by
  let setup : Setup := ⟨requestType .toHost .standard recipient, request, 0, index⟩
  have hdirection : requestDirection setup.requestType = .toHost :=
    requestDirection_requestType _ _ _
  have hkind : requestKind setup.requestType = .standard := requestKind_requestType _ _ _
  have hpayload : (ControlData.length reply.length).payload (requestDirection setup.requestType) =
      .ok (.receive reply.length) := by
    rw [hdirection]
    rfl
  have hstate : c.device? held.device = some state := by
    rw [ho.device, ho.device?]
    exact hstate
  have hanswer : Loopback.Bus.controlReply state held setup reply.length = .ok reply := by
    change Loopback.Bus.standardReply state held setup = .ok reply at hreply
    rw [Loopback.Bus.controlReply, hkind, hreply]
    exact congrArg Except.ok List.take_length
  have hrequest : outcome (standardRequest .toHost recipient request 0 index
      (.length reply.length)) a = .ok (.read reply) := by
    change outcome (Device.controlTransfer setup (.length reply.length) none) a = _
    have hread := Loopback.Bus.controlTransfer_reads ho.failures ho.handle hstate reply.length
      a.device.defaultTimeout hdirection
    rw [hanswer] at hread
    exact (ho.controlTransfer hpayload none).1.trans hread
  rw [Device.readExact, outcome_bind_ok _ hrequest, Transferred.toData,
    outcome_bind_ok _ (outcome_liftResult _ _)]
  simp

theorem clearHalt (endpoint : UInt8) :
    outcome (clearHalt endpoint) a = .ok () ∧
      after (Device.clearHalt endpoint) a = a.hold ({ · with handle := some h })
        ((c.counted .clearHalt none).modifyDevice a.device.id fun d => { d with
          halted := d.halted.erase endpoint }) := by
  have hwhole : Device.clearHalt endpoint a =
      SerialBus.onBus (Backend.clearHalt h endpoint) (a.hold ({ · with handle := some h }) c) := by
    unfold Device.clearHalt
    exact bind_eq_of_ok _ ho.eq_ok
  obtain ⟨hout, hafter⟩ := Loopback.Bus.clearHalt_works ho.failures ho.handle endpoint
  rw [outcome_congr hwhole, after_congr hwhole, outcome_onBus, after_onBus]
  refine ⟨hout, ?_⟩
  rw [← ho.device]
  exact congrArg (Attachment.mk _) hafter

end Opens

end SerialBus.Device
