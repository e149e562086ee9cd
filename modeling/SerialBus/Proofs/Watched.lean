import SerialBus.Proofs.Action
import SerialBus.Proofs.Operation
import SerialBus.Session.Testbed
import SerialBus.Session.Call

/-! Backends that mirror one another, and a backend that writes down the calls that reach it,
each with the state that it met. Writing them down changes nothing else. -/
namespace SerialBus

open SerialBus.Action Session

variable {σ τ α : Type}

/-- Seen through `view`, the operation does what `model` does. -/
def Mirrors (view : σ → τ) (act : Action σ α) (model : Action τ α) : Prop :=
  ∀ s, outcome act s = outcome model (view s) ∧ view (after act s) = after model (view s)

/-- Seen through `view`, each operation of one backend is that of the other. -/
structure Mirror [Backend σ] [Backend τ] (view : σ → τ) : Prop where
  act : ∀ {α : Type} (op : Operation α), Mirrors view (op.act : Action σ α) op.act

theorem mirror_id [Backend σ] : Mirror (id : σ → σ) := ⟨fun _ _ => ⟨rfl, rfl⟩⟩

/-- A call with the state of the backend that it met. -/
structure Sent (σ : Type) where
  call : BackendCall
  met : σ

/-- What the calls of the three kinds of transfer with data have in common. -/
structure DataTransfer where
  handle : HandleId
  endpoint : UInt8
  number : UInt8
  payload : Payload

def Session.BackendCall.dataTransfer? : BackendCall → Option DataTransfer
  | .bulkTransfer h endpoint number payload _ => some ⟨h, endpoint, number, payload⟩
  | .interruptTransfer h endpoint number payload _ => some ⟨h, endpoint, number, payload⟩
  | .isochronousTransfer h endpoint number payload _ => some ⟨h, endpoint, number, payload⟩
  | _ => none

/-- The transfer type by which a call moves data. -/
def Session.BackendCall.transferType? : BackendCall → Option TransferType
  | .bulkTransfer .. => some .bulk
  | .interruptTransfer .. => some .interrupt
  | .isochronousTransfer .. => some .isochronous
  | _ => none

/-- A backend with the calls that have reached it, the earliest first. -/
structure Watched (σ : Type) where
  inner : σ
  log : List (Sent σ) := []

namespace Watched

def watch (call : BackendCall) (act : Action σ α) : Action (Watched σ) α := fun w =>
  let log := w.log ++ [⟨call, w.inner⟩]
  match act w.inner with
  | .ok a s => .ok a ⟨s, log⟩
  | .error e s => .error e ⟨s, log⟩

@[simp] theorem after_watch (call : BackendCall) (act : Action σ α) (w : Watched σ) :
    after (watch call act) w = ⟨after act w.inner, w.log ++ [⟨call, w.inner⟩]⟩ := by
  simp only [after, watch]
  cases act w.inner <;> rfl

@[simp] theorem outcome_watch (call : BackendCall) (act : Action σ α) (w : Watched σ) :
    outcome (watch call act) w = outcome act w.inner := by
  simp only [outcome, watch]
  cases act w.inner <;> rfl

theorem mirrors_watch (call : BackendCall) (act : Action σ α) :
    Mirrors inner (watch call act) act := fun w => by simp

variable [Backend σ]

instance : Backend (Watched σ) where
  name := Backend.name σ
  devices := watch .devices Backend.devices
  deviceDescriptor id := watch (.deviceDescriptor id) (Backend.deviceDescriptor id)
  configurationDescriptor id config :=
    watch (.configurationDescriptor id config) (Backend.configurationDescriptor id config)
  interfaceDescriptor id interface alternate config :=
    watch (.interfaceDescriptor id interface alternate config)
      (Backend.interfaceDescriptor id interface alternate config)
  endpointDescriptor id endpoint interface alternate config :=
    watch (.endpointDescriptor id endpoint interface alternate config)
      (Backend.endpointDescriptor id endpoint interface alternate config)
  openDevice id := watch (.openDevice id) (Backend.openDevice id)
  closeDevice h := watch (.closeDevice h) (Backend.closeDevice h)
  setConfiguration h value := watch (.setConfiguration h value) (Backend.setConfiguration h value)
  configuration h := watch (.configuration h) (Backend.configuration h)
  claimInterface h number := watch (.claimInterface h number) (Backend.claimInterface h number)
  releaseInterface h number :=
    watch (.releaseInterface h number) (Backend.releaseInterface h number)
  setAlternate h number alternate :=
    watch (.setAlternate h number alternate) (Backend.setAlternate h number alternate)
  bulkTransfer h endpoint number payload timeout :=
    watch (.bulkTransfer h endpoint number payload timeout)
      (Backend.bulkTransfer h endpoint number payload timeout)
  interruptTransfer h endpoint number payload timeout :=
    watch (.interruptTransfer h endpoint number payload timeout)
      (Backend.interruptTransfer h endpoint number payload timeout)
  isochronousTransfer h endpoint number payload timeout :=
    watch (.isochronousTransfer h endpoint number payload timeout)
      (Backend.isochronousTransfer h endpoint number payload timeout)
  controlTransfer h setup payload timeout :=
    watch (.controlTransfer h setup payload timeout)
      (Backend.controlTransfer h setup payload timeout)
  resetDevice h := watch (.resetDevice h) (Backend.resetDevice h)
  kernelDriverActive h number :=
    watch (.kernelDriverActive h number) (Backend.kernelDriverActive h number)
  detachKernelDriver h number :=
    watch (.detachKernelDriver h number) (Backend.detachKernelDriver h number)
  attachKernelDriver h number :=
    watch (.attachKernelDriver h number) (Backend.attachKernelDriver h number)
  clearHalt h endpoint := watch (.clearHalt h endpoint) (Backend.clearHalt h endpoint)

theorem act_eq_watch (op : Operation α) : (op.act : Action (Watched σ) α) = watch op.call op.act := by
  cases op <;> rfl

/-- A watched backend does what the backend does when nobody watches. -/
theorem mirror_inner : Mirror (inner : Watched σ → σ) := ⟨fun op => by
  rw [act_eq_watch]
  exact mirrors_watch op.call op.act⟩

end Watched

end SerialBus
