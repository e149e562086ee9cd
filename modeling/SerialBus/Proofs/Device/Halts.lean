import SerialBus.Proofs.Device.Control
import SerialBus.Proofs.Loopback.Halts
import SerialBus.Proofs.Loopback.Integrity

/-! The halts of a loopback device as its users see them: by its status, by transfers that stall,
and by the two requests that end a halt. -/
namespace SerialBus.Device

open SerialBus.Action
open Loopback (Bus)

variable {a : Attachment Bus} {endpoint : UInt8}

/-- The status of an endpoint is whether it is halted. -/
theorem outcome_getStatus (hf : a.bus.failures = ∅) (ha : Usable a.device a.bus) :
    outcome (getStatus (.endpoint endpoint)) a =
      .ok (if a.bus.isHalted a.device.id endpoint then 1 else 0) := by
  obtain ⟨h, held, c, ho⟩ := exists_opens hf ha
  obtain ⟨state, hstate⟩ := Option.isSome_iff_exists.1 ha.present
  have hlow : endpoint.toUInt16.toUInt8 = endpoint := UInt8.toUInt8_toUInt16 endpoint
  have hreply : Bus.standardReply state held
      ⟨requestType .toHost .standard .endpoint, 0x00, 0, endpoint.toUInt16⟩ =
        .ok [if state.halted.contains endpoint then 1 else 0, 0] := by
    simp [Bus.standardReply, Bus.getStatusRequest, requestRecipient_requestType, hlow]
  let target := RequestTarget.endpoint endpoint
  have hread : outcome (readExact target.recipient 0x00 target.index 2) a =
      .ok [if state.halted.contains endpoint then 1 else 0, 0] := ho.readExact hstate hreply
  have hhalted : a.bus.isHalted a.device.id endpoint = state.halted.contains endpoint := by
    rw [Bus.isHalted, hstate]
    rfl
  rw [hhalted]
  unfold getStatus
  rw [outcome_bind_ok _ hread]
  cases state.halted.contains endpoint <;> rfl

/-- A change of a device is told by what it makes of the device. -/
theorem modifyDevice_congr {b : Bus} {id : DeviceId} {state : Loopback.DeviceState}
    {f g : Loopback.DeviceState → Loopback.DeviceState} (hstate : b.device? id = some state)
    (hfg : f state = g state) : b.modifyDevice id f = b.modifyDevice id g := by
  change b.devices[id.number]? = some state at hstate
  unfold Bus.modifyDevice
  rw [List.modify_eq_set_getElem?, List.modify_eq_set_getElem?, hstate]
  simp [hfg]

/-- A request to end a halt, and the operation that ends it, leave the same. -/
theorem clears_alike (hf : a.bus.failures = ∅) (ha : Usable a.device a.bus) {setup : Setup}
    (hclears : Bus.haltRequest? setup endpoint = some false) {data : ControlData}
    {payload : List UInt8} (hdata : data.payload .toDevice = .ok (.send payload))
    (timeout : Option Nat) :
    let raw : DeviceAction Bus Transferred := controlTransfer setup data timeout
    let clear : DeviceAction Bus Unit := clearFeature endpointHalt (.endpoint endpoint)
    outcome raw a = .ok (.written payload.length) ∧ outcome clear a = .ok () ∧
      (after raw a).device = (after clear a).device ∧
      (after raw a).bus.core = (after clear a).bus.core ∧
      (after clear a).bus.isHalted a.device.id endpoint = false := by
  intro raw clear
  obtain ⟨h, held, c, ho⟩ := exists_opens hf ha
  obtain ⟨state, hstate⟩ := Option.isSome_iff_exists.1 ha.present
  have hc : c.device? held.device = some state := by
    rw [ho.device, ho.device?]
    exact hstate
  obtain ⟨hdirection, hstore⟩ := Bus.controlStore_of_clears (d := state) payload hclears
  rw [← hdirection] at hdata
  obtain ⟨hraw, hrawAfter⟩ := ho.controlTransfer hdata timeout
  obtain ⟨hout, hafter⟩ := Bus.controlTransfer_works ho.failures ho.handle hc
    (timeout.getD a.device.defaultTimeout) hdirection hstore
  obtain ⟨hclear, hclearAfter⟩ := ho.clearHalt endpoint
  have hsame : clear = clearHalt endpoint := by
    simp only [clear, clearFeature, if_pos]
  let erased : Loopback.DeviceState → Loopback.DeviceState := fun d => { d with
    halted := d.halted.erase endpoint }
  have hchange : c.modifyDevice a.device.id (fun _ => erased state) =
      c.modifyDevice a.device.id erased := by
    rw [ho.device] at hc
    exact modifyDevice_congr hc rfl
  have hcleared : (after clear a).bus.isHalted a.device.id endpoint = false := by
    rw [hsame, hclearAfter]
    change ((c.counted .clearHalt none).modifyDevice a.device.id _).isHalted _ _ = false
    rw [Bus.isHalted_modifyDevice, if_pos rfl]
    have hd : (c.counted .clearHalt none).device? a.device.id = some state :=
      (ho.device? a.device.id).trans hstate
    rw [hd]
    exact Table.contains_erase_self
  refine ⟨hraw.trans hout, ?_, ?_, ?_, hcleared⟩
  · rw [hsame]
    exact hclear
  · rw [hsame, hrawAfter, hclearAfter]
    rfl
  · rw [hsame, hrawAfter, hclearAfter]
    have hbus := congrArg Bus.core hafter
    have hcore := congrArg Bus.core hchange
    rw [ho.device] at hbus
    exact hbus.trans hcore

/-- In every run, an endpoint is halted if the last change of its halt since the last reset of the
device has set it. Where nothing is made to fail, its status tells whether it is halted, a transfer
of its own type stalls if it is halted and otherwise not, and a raw request to end the halt does
what `clearFeature` does. -/
theorem endpoint_halts (specs : List Loopback.Device) (acts : List Bus.Act) (id : DeviceId)
    (endpoint : UInt8) :
    let b := (Bus.ofDevices specs).run acts
    (b.isHalted id endpoint = true ↔
      ((Bus.sinceReset id (Bus.history (Bus.ofDevices specs) acts)).filterMap
        (Bus.haltChange? id endpoint)).getLast? = some true) ∧
    (b.failures = ∅ →
      (∀ d : Device, d.id = id → Usable d b →
        outcome (getStatus (.endpoint endpoint)) ⟨d, b⟩ =
            .ok (if b.isHalted id endpoint then 1 else 0) ∧
        ∀ (setup : Setup) (data : ControlData) (payload : List UInt8) (timeout : Option Nat),
          Bus.haltRequest? setup endpoint = some false →
          data.payload .toDevice = .ok (.send payload) →
            let raw : DeviceAction Bus Transferred := controlTransfer setup data timeout
            let clear : DeviceAction Bus Unit := clearFeature endpointHalt (.endpoint endpoint)
            outcome raw ⟨d, b⟩ = .ok (.written payload.length) ∧ outcome clear ⟨d, b⟩ = .ok () ∧
              (after raw ⟨d, b⟩).device = (after clear ⟨d, b⟩).device ∧
              (after raw ⟨d, b⟩).bus.core = (after clear ⟨d, b⟩).bus.core ∧
              (after clear ⟨d, b⟩).bus.isHalted id endpoint = false) ∧
      ∀ (c : Session.BackendCall) (t : DataTransfer) (e : EndpointDescriptor)
        (held : Loopback.Handle) (d : Loopback.DeviceState),
        c.dataTransfer? = some t → t.endpoint = endpoint → c.transferType? = some e.transferType →
        b.handles.get? t.handle = some held → held.device = id →
        held.claimed.contains t.number = true → b.device? id = some d →
        d.endpoint? t.number ((held.alternates.get? t.number).getD 0) endpoint = some e →
          (outcome c.perform b = .error Loopback.stalled ↔ b.isHalted id endpoint = true) ∧
            (b.isHalted id endpoint = true → (after c.perform b).core = b.core)) := by
  intro b
  have hstart : (Bus.ofDevices specs).isHalted id endpoint = false := Bus.isHalted_ofDevices specs
  refine ⟨?_, fun hf => ⟨?_, ?_⟩⟩
  · rw [Bus.isHalted_run hstart acts]
    cases List.getLast? _ with
    | none => simp
    | some halt => simp
  · rintro d rfl hd
    exact ⟨outcome_getStatus (a := ⟨d, b⟩) hf hd, fun setup data payload timeout hclears hdata =>
      clears_alike (a := ⟨d, b⟩) hf hd hclears hdata timeout⟩
  · rintro c t e held d ht rfl hkind hget rfl hclaimed hd he
    exact Bus.stalls_iff_isHalted hf ht hkind hget hclaimed hd he

/-- Through two handles an endpoint is halted, cleared, halted again and reset; then it is halted
with another high byte in the index, and a request to clear it is made to fail. -/
theorem endpoint_halts_after_reset :
    let request : UInt8 → UInt16 → Setup := fun request index =>
      ⟨requestType .toDevice .standard .endpoint, request, 0, index⟩
    let acts : List Bus.Act :=
      [.call (.openDevice ⟨0⟩), .call (.openDevice ⟨0⟩), .call (.claimInterface ⟨1⟩ 0),
        .call (.controlTransfer ⟨1⟩ (request 3 0x81) (.send []) 10), .call (.clearHalt ⟨2⟩ 0x81),
        .call (.controlTransfer ⟨2⟩ (request 3 0x0181) (.send []) 10), .call (.resetDevice ⟨1⟩),
        .call (.controlTransfer ⟨2⟩ (request 3 0x5581) (.send []) 10),
        .hook (.failOn .ctrlTransfer .io),
        .call (.controlTransfer ⟨1⟩ (request 1 0x81) (.send []) 10), .hook .clearFailures]
    let b := (Bus.ofDevices [Loopback.Device.bulkLoopback 1 2]).run acts
    let d : Device := ⟨⟨0⟩, default, 1000, .empty⟩
    outcome (getStatus (.endpoint 0x81)) ⟨d, b⟩ = .ok 1 ∧
      outcome (Session.BackendCall.bulkTransfer ⟨1⟩ 0x81 0 (.receive 1) 10).perform b =
        .error Loopback.stalled ∧
      (after (clearFeature endpointHalt (.endpoint 0x81)) ⟨d, b⟩).bus.isHalted ⟨0⟩ 0x81 = false := by
  intro request acts b d
  obtain ⟨hhalted, hworking⟩ := endpoint_halts [Loopback.Device.bulkLoopback 1 2] acts ⟨0⟩ 0x81
  have hb : b.isHalted ⟨0⟩ 0x81 = true := hhalted.2 (by decide +kernel)
  have hf : b.failures = ∅ := by decide +kernel
  obtain ⟨hdevice, htransfer⟩ := hworking hf
  have hpresent : (b.device? ⟨0⟩).isSome = true := by decide +kernel
  obtain ⟨hstatus, hclear⟩ := hdevice d rfl ⟨hpresent, nofun⟩
  refine ⟨?_, ?_, ?_⟩
  · rw [hstatus]
    exact congrArg Except.ok (if_pos hb)
  · have hget : b.handles.get? ⟨1⟩ = some ⟨⟨0⟩, ByteSet.ofList [0], ∅⟩ := by decide +kernel
    have hendpoint : (b.device? ⟨0⟩).bind (fun state => state.endpoint? 0 0 0x81) =
        some { endpointAddress := 0x81 } := by decide +kernel
    obtain ⟨state, hstate⟩ := Option.isSome_iff_exists.1 hpresent
    rw [hstate] at hendpoint
    exact (htransfer (.bulkTransfer ⟨1⟩ 0x81 0 (.receive 1) 10) ⟨⟨1⟩, 0x81, 0, .receive 1⟩ _ _ state
      rfl rfl rfl hget rfl rfl hstate hendpoint).1.2 hb
  · exact (hclear (request 1 0xFF81) .none [] none (by decide) rfl).2.2.2.2

end SerialBus.Device
