import SerialBus.Proofs.Action
import SerialBus.Proofs.Device.Parts
import SerialBus.Proofs.Table

/-! What the operations that open and close a handle and claim and release interfaces do to a
device, in terms of what its backend does. -/
namespace SerialBus

open SerialBus.Action

variable {σ : Type}

/-- The attachment with a change of what is held, and with another state of the bus. -/
def Attachment.hold (a : Attachment σ) (f : Holdings → Holdings) (bus : σ) : Attachment σ :=
  ⟨{ a.device with held := f a.device.held }, bus⟩

namespace Device

variable [Backend σ] {a : Attachment σ}

theorem openHandle_of_some {h : HandleId} (hh : a.device.held.handle = some h) :
    openHandle a = .ok h a := by
  rw [openHandle, getHeld_bind, hh]
  rfl

theorem openHandle_of_none (hh : a.device.held.handle = none) :
    openHandle a =
      match (Backend.openDevice a.device.id : Action σ HandleId) a.bus with
      | .ok h b => .ok h (a.hold ({ · with handle := some h }) b)
      | .error e b => .error e { a with bus := b } := by
  rw [openHandle, getHeld_bind, hh]
  dsimp only
  rw [getDevice_bind]
  simp only [bind, EStateM.bind, SerialBus.onBus]
  cases (Backend.openDevice a.device.id : Action σ HandleId) a.bus <;> rfl

theorem after_openHandle_of_none (hh : a.device.held.handle = none) :
    after openHandle a =
      match outcome (Backend.openDevice a.device.id : Action σ HandleId) a.bus with
      | .ok h => a.hold ({ · with handle := some h })
        (after (Backend.openDevice a.device.id : Action σ HandleId) a.bus)
      | .error _ =>
        { a with bus := after (Backend.openDevice a.device.id : Action σ HandleId) a.bus } := by
  simp only [after, outcome, openHandle_of_none hh]
  cases (Backend.openDevice a.device.id : Action σ HandleId) a.bus <;> rfl

theorem outcome_openHandle_of_none (hh : a.device.held.handle = none) :
    outcome openHandle a =
      outcome (Backend.openDevice a.device.id : Action σ HandleId) a.bus := by
  simp only [outcome, openHandle_of_none hh]
  cases (Backend.openDevice a.device.id : Action σ HandleId) a.bus <;> rfl

/-- Afterwards the handle that was returned is held. -/
theorem handle_after_openHandle {h : HandleId} (ho : outcome openHandle a = .ok h) :
    (after openHandle a).device.held.handle = some h := by
  cases hh : a.device.held.handle with
  | some k =>
    have hk := openHandle_of_some hh
    rw [eq_ok_iff] at hk
    rw [hk.2, hh, ← hk.1.symm.trans ho |> Except.ok.inj]
  | none =>
    rw [outcome_openHandle_of_none hh] at ho
    rw [after_openHandle_of_none hh, ho]
    rfl

theorem claimOnce_of_claimed {h : HandleId} {number : UInt8}
    (hc : a.device.held.claimed.contains number = true) : claimOnce h number a = .ok () a := by
  rw [claimOnce, getHeld_bind, hc]
  rfl

theorem claimOnce_of_unclaimed {h : HandleId} {number : UInt8}
    (hc : a.device.held.claimed.contains number = false) :
    claimOnce h number a = onBus (Backend.claimInterface h number) a := by
  rw [claimOnce, getHeld_bind, hc]
  rfl

theorem device_after_claimOnce (h : HandleId) (number : UInt8) :
    (after (claimOnce h number) a).device = a.device := by
  cases hc : a.device.held.claimed.contains number with
  | true => rw [(eq_ok_iff.1 (claimOnce_of_claimed hc)).2]
  | false => rw [after_congr (claimOnce_of_unclaimed hc), after_onBus]

/-- What is acquired is claimed, on a handle that is open. -/
theorem held_after_acquire {number : UInt8} {level : Nat → Nat}
    (ho : outcome (acquire number level) a = .ok ()) :
    (∃ h, (after (acquire number level) a).device.held.handle = some h) ∧
      (after (acquire number level) a).device.held.claimed.contains number = true := by
  rw [acquire_eq] at ho ⊢
  obtain ⟨h, hh, ho⟩ := outcome_bind_eq_ok.1 ho
  obtain ⟨u, hc, -⟩ := outcome_bind_eq_ok.1 ho
  rw [after_bind_ok _ hh, after_bind_ok _ hc, after_modifyHeld]
  simp only [device_after_claimOnce]
  exact ⟨⟨h, handle_after_openHandle hh⟩, Table.contains_insert_self⟩

theorem closeHandle_of_none (hh : a.device.held.handle = none) : closeHandle a = .ok () a := by
  rw [closeHandle, getHeld_bind, hh]
  rfl

theorem closeHandle_of_some {h : HandleId} (hh : a.device.held.handle = some h) :
    closeHandle a = onBus (Backend.closeDevice h)
      (a.hold ({ · with handle := none, claimed := ∅ }) a.bus) := by
  rw [closeHandle, getHeld_bind, hh]
  rfl

theorem releaseAll_of_none (hh : a.device.held.handle = none) :
    releaseAll a = .ok none (a.hold ({ · with claimed := ∅ }) a.bus) := by
  rw [releaseAll, getHeld_bind, hh]
  rfl

theorem releaseAll_of_some {h : HandleId} (hh : a.device.held.handle = some h) :
    releaseAll a = onBus (releaseEach h a.device.held.claimed.keys)
      (a.hold ({ · with claimed := ∅ }) a.bus) := by
  rw [releaseAll, getHeld_bind, hh]
  rfl

theorem ensureClaimed_resolved (l : InterfaceLocation) :
    (ensureClaimed (.resolved l) : DeviceAction σ Unit) =
      acquire l.descriptor.interfaceNumber (max · 1) := rfl

/-- What is prepared for a transfer is claimed, on the handle that is held. -/
theorem held_after_prepare {endpoint : UInt8} {target : InterfaceTarget} {timeout : Option Nat}
    {kind : TransferType} {h : HandleId} {number : UInt8} {ms : Nat}
    (ho : outcome (prepare endpoint target timeout) a = .ok (kind, h, number, ms)) :
    (after (prepare endpoint target timeout) a).device.held.handle = some h ∧
      (after (prepare endpoint target timeout) a).device.held.claimed.contains number = true := by
  unfold prepare at ho ⊢
  obtain ⟨location, hl, ho⟩ := outcome_bind_eq_ok.1 ho
  rw [after_bind_ok _ hl]
  obtain ⟨type, ht, ho⟩ := outcome_bind_eq_ok.1 ho
  rw [after_bind_ok _ ht]
  obtain ⟨u, hc, ho⟩ := outcome_bind_eq_ok.1 ho
  rw [after_bind_ok _ hc]
  rw [ensureClaimed_resolved] at hc ho ⊢
  obtain ⟨⟨i, hi⟩, hclaimed⟩ := held_after_acquire hc
  generalize after (acquire location.descriptor.interfaceNumber (max · 1))
    (after (endpointType endpoint location) (after (findInterface target) a)) = s at ho hi hclaimed ⊢
  obtain ⟨ho', hs⟩ := eq_ok_iff.1 (openHandle_of_some hi)
  rw [outcome_bind_ok _ ho', hs] at ho
  rw [after_bind_ok _ ho', hs]
  cases ho
  exact ⟨hi, hclaimed⟩

/-- A claim that is not the last one is taken back without the backend. -/
theorem release_of_many {number : UInt8} {level : Nat}
    (hl : a.device.held.claimed.get? number = some level) (h1 : 1 < level) :
    release (.number number) a = .ok () (a.hold (fun held => { held with
      claimed := held.claimed.insert number (level - 1) }) a.bus) := by
  rw [release, interfaceNumber, pure_bind, getHeld_bind, hl]
  simp only [if_pos h1]
  rfl

theorem release_of_none {number : UInt8} (hl : a.device.held.claimed.get? number = none) :
    release (.number number) a = .ok () a := by
  rw [release, interfaceNumber, pure_bind, getHeld_bind, hl]
  rfl

theorem release_of_last {h : HandleId} {number : UInt8} {level : Nat}
    (hl : a.device.held.claimed.get? number = some level) (h1 : ¬ 1 < level)
    (hh : a.device.held.handle = some h) :
    release (.number number) a = (onBus (Backend.releaseInterface h number) >>= fun _ =>
      modifyHeld fun held => { held with claimed := held.claimed.erase number }) a := by
  rw [release, interfaceNumber, pure_bind, getHeld_bind, hl]
  simp only [if_neg h1, bind, EStateM.bind, openHandle_of_some hh]

/-- Failures to release are collected, so that none of them ends the operation. -/
theorem outcome_releaseEach (h : HandleId) (numbers : List UInt8) (s : σ) :
    ∃ r, outcome (releaseEach h numbers) s = .ok r := by
  induction numbers generalizing s with
  | nil => exact ⟨none, rfl⟩
  | cons number rest ih =>
    obtain ⟨later, hl⟩ := ih (after (Backend.releaseInterface h number) s)
    rw [releaseEach, outcome_bind_ok _ (outcome_attempt _ _), after_attempt,
      outcome_bind_ok _ hl]
    cases outcome (Backend.releaseInterface h number : Action σ Unit) s with
    | error e => exact ⟨some e, rfl⟩
    | ok u => exact ⟨later, rfl⟩

/-- One release after another, whatever fails. -/
theorem after_releaseEach_cons (h : HandleId) (number : UInt8) (rest : List UInt8) (s : σ) :
    after (releaseEach h (number :: rest)) s =
      after (releaseEach h rest) (after (Backend.releaseInterface h number) s) := by
  obtain ⟨later, hl⟩ := outcome_releaseEach h rest (after (Backend.releaseInterface h number) s)
  rw [releaseEach, after_bind_ok _ (outcome_attempt _ _), after_attempt, after_bind_ok _ hl]
  cases outcome (Backend.releaseInterface h number : Action σ Unit) s <;> rfl

theorem outcome_releaseAll (a : Attachment σ) : ∃ r, outcome releaseAll a = .ok r := by
  cases hh : a.device.held.handle with
  | none => exact ⟨none, (eq_ok_iff.1 (releaseAll_of_none hh)).1⟩
  | some h =>
    obtain ⟨r, hr⟩ := outcome_releaseEach h a.device.held.claimed.keys a.bus
    exact ⟨r, by rw [outcome_congr (releaseAll_of_some hh), outcome_onBus]; exact hr⟩

theorem outcome_closeIf (close : Bool) (a : Attachment σ) :
    ∃ r, outcome (closeIf close) a = .ok r := by
  cases close with
  | false => exact ⟨.ok (), rfl⟩
  | true => exact ⟨outcome closeHandle a, outcome_attempt _ _⟩

/-- A disposal runs to its end, whatever fails in it, and then raises the first failure. -/
theorem dispose_apply {close : Bool} {released : Option UsbError} {closed : Except UsbError Unit}
    (hr : outcome releaseAll a = .ok released)
    (hc : outcome (closeIf close) (after releaseAll a) = .ok closed) :
    outcome (dispose close) a = firstFailure released closed ∧
      after (dispose close) a = (after (closeIf close) (after releaseAll a)).hold
        ({ · with activeConfig := none, alternates := ∅, endpointTypes := ∅ })
        (after (closeIf close) (after releaseAll a)).bus := by
  rw [dispose_eq, outcome_bind_ok _ hr, outcome_bind_ok _ hc, after_bind_ok _ hr,
    after_bind_ok _ hc]
  constructor
  · exact (outcome_bind_ok _ (outcome_modifyHeld _ _)).trans (outcome_liftResult _ _)
  · exact (after_bind_ok _ (outcome_modifyHeld _ _)).trans (after_liftResult _ _)

theorem handle_after_closeHandle (a : Attachment σ) :
    (after closeHandle a).device.held.handle = none := by
  cases hh : a.device.held.handle with
  | none =>
    rw [(eq_ok_iff.1 (closeHandle_of_none hh)).2]
    exact hh
  | some h =>
    rw [after_congr (closeHandle_of_some hh), after_onBus]
    rfl

/-- After a full disposal the device has no handle, also if the handle could not be closed. -/
theorem handle_after_dispose (a : Attachment σ) :
    (after (dispose true) a).device.held.handle = none := by
  obtain ⟨released, hr⟩ := outcome_releaseAll a
  obtain ⟨closed, hc⟩ := outcome_closeIf true (after releaseAll a)
  rw [(dispose_apply hr hc).2]
  change (after (attempt closeHandle) (after releaseAll a)).device.held.handle = none
  rw [after_attempt]
  exact handle_after_closeHandle _

/-- A device is put away by a full disposal, whatever it returns. -/
theorem drop_eq (d : Device) (bus : σ) :
    d.drop bus = (after (dispose true) (⟨d, bus⟩ : Attachment σ)).bus := by
  unfold drop after
  cases dispose true (⟨d, bus⟩ : Attachment σ) <;> rfl

end Device

end SerialBus
