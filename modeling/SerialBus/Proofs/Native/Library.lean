import SerialBus.Native.Library
import SerialBus.Proofs.Native.Calls

/-! The simulated library opens a handle for the device that it is given, and keeps it for this
device whatever is done on it. -/
namespace SerialBus.Native.Library

variable {α : Type}

/-- A call on a handle, whatever comes of it, leaves the handle to its device. -/
def KeepsDevice (act : EStateM Failure (Library × Handle) α) : Prop :=
  ∀ l s, match act (l, s) with
    | .ok _ (_, t) => t.device = s.device
    | .error _ (_, t) => t.device = s.device

theorem keepsDevice_throw (e : Failure) :
    KeepsDevice (throw e : EStateM Failure (Library × Handle) α) := fun _ _ => rfl

theorem keepsDevice_call {f : Function} {line : String} {forced : Int → Except Failure α}
    {act : Handle → Except Failure (α × Handle)}
    (hact : ∀ s a t, act s = .ok (a, t) → t.device = s.device) :
    KeepsDevice (call f line forced act) := by
  intro l s
  by_cases hcode : l.code f ≠ 0
  · simp only [call, if_pos hcode]
    cases forced (l.code f) <;> rfl
  · simp only [call, if_neg hcode]
    cases hr : act s with
    | error e => rfl
    | ok r => exact hact s r.1 r.2 hr

theorem device_receive {s t : Handle} {endpoint : UInt8} {length : Nat} {data : List UInt8}
    (h : s.receive endpoint length = .ok (data, t)) : t.device = s.device := by
  simp only [Handle.receive] at h
  split at h <;> cases h
  rfl

theorem keepsDevice_writeData (f : Function) (endpoint : UInt8) (data : List UInt8)
    (timeout : Nat) : KeepsDevice (writeData f endpoint data timeout) := by
  unfold writeData
  split
  · exact keepsDevice_throw _
  · apply keepsDevice_call
    intro s a t ht
    cases ht
    rfl

theorem keepsDevice_readData (f : Function) (endpoint : UInt8) (length timeout : Nat) :
    KeepsDevice (readData f endpoint length timeout) := by
  unfold readData
  split
  · exact keepsDevice_throw _
  · apply keepsDevice_call
    intro s a t ht
    cases hr : s.receive endpoint (dataLength length).toNat with
    | error e => simp [hr, bind, Except.bind] at ht
    | ok r =>
      simp only [hr, bind, Except.bind, pure, Except.pure, Except.ok.injEq, Prod.mk.injEq] at ht
      rw [← ht.2]
      exact device_receive hr

theorem keepsDevice_writeControl (setup : Setup) (data : List UInt8) (timeout : Nat) :
    KeepsDevice (writeControl setup data timeout) := by
  unfold writeControl
  split
  · exact keepsDevice_throw _
  · apply keepsDevice_call
    intro s a t ht
    cases ht
    rfl

theorem keepsDevice_readControl (setup : Setup) (length timeout : Nat) :
    KeepsDevice (readControl setup length timeout) := by
  unfold readControl
  split
  · exact keepsDevice_throw _
  · apply keepsDevice_call
    intro s a t ht
    cases hr : s.controlReply setup with
    | error e => simp [hr, bind, Except.bind] at ht
    | ok r =>
      simp only [hr, bind, Except.bind, pure, Except.pure, Except.ok.injEq, Prod.mk.injEq] at ht
      rw [← ht.2]

theorem keepsDevice_onHandle (c : HandleCall α) : KeepsDevice (onHandle c) := by
  cases c with
  | writeBulk endpoint data timeout => exact keepsDevice_writeData _ endpoint data timeout
  | readBulk endpoint length timeout => exact keepsDevice_readData _ endpoint length timeout
  | writeInterrupt endpoint data timeout => exact keepsDevice_writeData _ endpoint data timeout
  | readInterrupt endpoint length timeout => exact keepsDevice_readData _ endpoint length timeout
  | writeControl setup data timeout => exact keepsDevice_writeControl setup data timeout
  | readControl setup length timeout => exact keepsDevice_readControl setup length timeout
  | configuration | claimInterface | reset | kernelDriverActive | clearHalt =>
    unfold onHandle
    apply keepsDevice_call
    intro s a t ht
    cases ht
    rfl
  | setConfiguration | releaseInterface | setAlternate | detachKernelDriver | attachKernelDriver =>
    unfold onHandle
    apply keepsDevice_call
    intro s a t ht
    split at ht <;> cases ht
    rfl

theorem eq_ofDevice_of_openDevice {d : Device} {l m : Library} {s : Handle}
    (h : openDevice d l = .ok s m) : s = Handle.ofDevice d := by
  simp only [openDevice, bind, EStateM.bind] at h
  split at h
  · split at h <;> cases h
    rfl
  · cases h

/-- What is seen of a device on its handles is the device itself. -/
theorem keeping_device : Client.Keeping Library id Handle.device where
  opens {d l m s} h := by
    rw [eq_ofDevice_of_openDevice h]
    rfl
  answers {_ call l m s t a} h := by
    have hkept := keepsDevice_onHandle call l s
    change onHandle call (l, s) = .ok a (m, t) at h
    rwa [h] at hkept
  refuses {_ call l m s t e} h := by
    have hkept := keepsDevice_onHandle call l s
    change onHandle call (l, s) = .error e (m, t) at h
    rwa [h] at hkept

end SerialBus.Native.Library
