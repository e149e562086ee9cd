import SerialBus.Device.StandardRequest
import SerialBus.Proofs.Device.Effects
import SerialBus.Proofs.Loopback.Operations

/-! Standard requests on an open handle of a loopback bus: a request for one byte returns the byte
that the bus has for it, unless control transfers are made to fail. -/
namespace SerialBus.Device

open SerialBus.Action
open Loopback (Bus)

variable {a : Attachment Bus} {h : HandleId} {held : Loopback.Handle} {state : Loopback.DeviceState}
  (hh : a.device.held.handle = some h) (hget : a.bus.handles.get? h = some held)
  (hstate : a.bus.device? held.device = some state)

include hh hget hstate

theorem outcome_readByte {recipient : Recipient} {request : UInt8} {index : UInt16} {byte : UInt8}
    (hreply : Bus.standardReply state held
      ⟨requestType .toHost .standard recipient, request, 0, index⟩ = .ok [byte]) :
    outcome (readExact recipient request index 1) a =
      match a.bus.failures.get? .ctrlTransfer with
      | some kind => .error (.transport kind none)
      | none => .ok [byte] := by
  let setup : Setup := ⟨requestType .toHost .standard recipient, request, 0, index⟩
  have hdirection : requestDirection setup.requestType = .toHost :=
    requestDirection_requestType _ _ _
  have hanswer : Bus.controlReply state held setup 1 = .ok [byte] := by
    have hkind : requestKind setup.requestType = .standard := requestKind_requestType _ _ _
    have hbyte : Bus.standardReply state held setup = .ok [byte] := hreply
    rw [Bus.controlReply, hkind, hbyte]
    rfl
  have hcontrol : ∀ ms, outcome (Backend.controlTransfer h setup (.receive 1) ms : Action Bus _)
      a.bus =
        match a.bus.failures.get? .ctrlTransfer with
        | some kind => .error (.transport kind none)
        | none => .ok (.read [byte]) := by
    intro ms
    change outcome (Bus.controlTransfer h setup (.receive 1) ms) a.bus = _
    rw [Bus.controlTransfer_eq_serve, Bus.outcome_serve]
    cases a.bus.failures.get? .ctrlTransfer with
    | some kind => rfl
    | none =>
      simp only [Bus.withHandle, hget, Bus.withDevice, hstate, hdirection, hanswer]
      rfl
  have hrequest : outcome (controlTransfer setup (.length 1) none) a =
      match a.bus.failures.get? .ctrlTransfer with
      | some kind => .error (.transport kind none)
      | none => .ok (.read [byte]) := by
    obtain ⟨hopen, hsame⟩ := eq_ok_iff.1 (openHandle_of_some hh)
    have hpayload : (ControlData.length 1).payload (requestDirection setup.requestType) =
        .ok (.receive 1) := by
      rw [hdirection]
      rfl
    rw [controlTransfer, hpayload, outcome_bind_ok _ (outcome_liftResult _ _), after_liftResult,
      outcome_bind_ok _ hopen, hsame]
    exact (outcome_onBus _ _).trans (hcontrol _)
  have hstandard : outcome (standardRequest .toHost recipient request 0 index (.length 1)) a =
      match a.bus.failures.get? .ctrlTransfer with
      | some kind => .error (.transport kind none)
      | none => .ok (.read [byte]) := hrequest
  rw [readExact, outcome_bind, hstandard]
  cases a.bus.failures.get? .ctrlTransfer <;> rfl

/-- The configuration that a device reports is the one that it is in. -/
theorem outcome_reportedConfiguration :
    outcome reportedConfiguration a =
      match a.bus.failures.get? .ctrlTransfer with
      | some kind => .error (.transport kind none)
      | none => .ok state.activeConfiguration := by
  have hreply : Bus.standardReply state held ⟨requestType .toHost .standard .device, 0x08, 0, 0⟩ =
      .ok [state.activeConfiguration] := rfl
  rw [reportedConfiguration, outcome_bind_pure, outcome_readByte hh hget hstate hreply]
  cases a.bus.failures.get? .ctrlTransfer <;> rfl

end SerialBus.Device
