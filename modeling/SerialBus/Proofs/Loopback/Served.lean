import SerialBus.Proofs.Loopback.Operations
import SerialBus.Proofs.Operation

/-! What all operations of a loopback bus have in common. Nothing depends on what is counted and
noted down, and nobody but a hook changes what is made to fail. -/
namespace SerialBus.Loopback.Bus

open SerialBus.Action

variable {α : Type}

/-- A change of the core alone, which leaves what is made to fail. -/
structure OfCore (change : Bus → Bus) : Prop where
  failures : ∀ b, (change b).failures = b.failures
  core : ∀ b, (change b).core = (change b.core).core

/-- An answer that looks at the core alone and changes nothing else. -/
structure Blind (answer : Bus → Answer α) : Prop where
  congr : ∀ {b c : Bus}, b.core = c.core → answer b = answer c
  change : ∀ {b a change}, answer b = .ok (a, change) → OfCore change

theorem blind_error (e : UsbError) : Blind (fun _ => (.error e : Answer α)) :=
  ⟨fun _ => rfl, nofun⟩

theorem blind_ok (a : α) {change : Bus → Bus} (h : OfCore change) :
    Blind (fun _ => (.ok (a, change) : Answer α)) :=
  ⟨fun _ => rfl, fun ha => by cases ha; exact h⟩

theorem blind_unchanged (a : α) : Blind (fun _ => unchanged a) :=
  blind_ok a ⟨fun _ => rfl, fun _ => rfl⟩

theorem blind_map {β : Type} (x : Except UsbError β) {f : β → α × (Bus → Bus)}
    (h : ∀ r, OfCore (f r).2) : Blind (fun _ => (x.map f : Answer α)) := by
  cases x with
  | error e => exact blind_error e
  | ok r => exact blind_ok (f r).1 (h r)

theorem blind_bind_unchanged {β : Type} (x : Except UsbError β) (f : β → α) :
    Blind (fun _ => x.bind fun r => unchanged (f r)) := by
  cases x with
  | error e => exact blind_error e
  | ok r => exact blind_unchanged (f r)

theorem blind_ite {c : Prop} [Decidable c] {x y : Bus → Answer α} (hx : Blind x) (hy : Blind y) :
    Blind (fun b => if c then x b else y b) := by
  by_cases h : c
  · simpa only [if_pos h] using hx
  · simpa only [if_neg h] using hy

theorem blind_withHandle (h : HandleId) {answer : Handle → Bus → Answer α}
    (ha : ∀ held, Blind (answer held)) :
    Blind (fun b => withHandle h (fun held => answer held b) b) := by
  constructor
  · intro b c hbc
    have hh : b.handles = c.handles := (Bus.mk.inj hbc).2.1
    unfold withHandle
    rw [hh]
    cases c.handles.get? h with
    | none => rfl
    | some held => exact (ha held).congr hbc
  · intro b a change hok
    obtain ⟨held, -, hok⟩ := withHandle_eq_ok.1 hok
    exact (ha held).change hok

theorem blind_withDevice (id : DeviceId) {answer : DeviceState → Bus → Answer α}
    (ha : ∀ d, Blind (answer d)) : Blind (fun b => withDevice id (fun d => answer d b) b) := by
  constructor
  · intro b c hbc
    have hd : b.devices = c.devices := (Bus.mk.inj hbc).1
    unfold withDevice device?
    rw [hd]
    cases c.devices[id.number]? with
    | none => rfl
    | some d => exact (ha d).congr hbc
  · intro b a change hok
    obtain ⟨d, -, hok⟩ := withDevice_eq_ok.1 hok
    exact (ha d).change hok

/-- An operation that is served with such an answer. -/
def Served (act : Action Bus α) : Prop :=
  ∃ m timeout answer, act = serve m timeout answer ∧ Blind answer

theorem served_serve (m : Method) (timeout : Option Nat) {answer : Bus → Answer α}
    (h : Blind answer) : Served (serve m timeout answer) := ⟨m, timeout, answer, rfl, h⟩

section

variable (h : HandleId) (number : UInt8)

theorem ofCore_modifyDevice (id : DeviceId) (f : DeviceState → DeviceState) :
    OfCore fun b => b.modifyDevice id f := ⟨fun _ => rfl, fun _ => rfl⟩

theorem ofCore_modifyHandle (f : Handle → Handle) : OfCore fun b => b.modifyHandle h f :=
  ⟨fun _ => rfl, fun _ => rfl⟩

theorem served_enumerate : Served enumerate := by
  rw [enumerate_eq_serve]
  refine served_serve _ _ ⟨fun {b c} hbc => ?_, fun ha => ?_⟩
  · have hd : b.devices = c.devices := (Bus.mk.inj hbc).1
    rw [hd]
  · cases ha
    exact ⟨fun _ => rfl, fun _ => rfl⟩

theorem served_openDevice (id : DeviceId) : Served (openDevice id) := by
  rw [openDevice_eq_serve]
  refine served_serve _ _ ⟨fun {b c} hbc => ?_, fun {b a change} ha => ?_⟩
  · have hd : b.devices = c.devices := (Bus.mk.inj hbc).1
    have hn : b.nextHandle = c.nextHandle := (Bus.mk.inj hbc).2.2.1
    unfold withDevice device?
    rw [hd, hn]
  · obtain ⟨d, -, ha⟩ := withDevice_eq_ok.1 ha
    cases ha
    exact ⟨fun _ => rfl, fun _ => rfl⟩

theorem served_closeDevice : Served (closeDevice h) := by
  rw [closeDevice_eq_serve]
  exact served_serve _ _ (blind_withHandle h fun _ => blind_ok _ ⟨fun _ => rfl, fun _ => rfl⟩)

theorem served_setConfiguration (value : UInt8) : Served (setConfiguration h value) := by
  rw [setConfiguration_eq_serve]
  exact served_serve _ _ (blind_withHandle h fun held => blind_withDevice held.device fun _ =>
    blind_ite (blind_error _) (blind_ok _ ⟨fun _ => rfl, fun _ => rfl⟩))

theorem served_configuration : Served (configuration h) := by
  rw [configuration_eq_serve]
  exact served_serve _ _ (blind_withHandle h fun held => blind_withDevice held.device fun _ =>
    blind_ite (blind_unchanged _) (blind_error _))

theorem served_claimInterface : Served (claimInterface h number) := by
  rw [claimInterface_eq_serve]
  exact served_serve _ _ (blind_withHandle h fun _ =>
    blind_ite (blind_error _) (blind_ok _ (ofCore_modifyHandle h _)))

theorem served_releaseInterface : Served (releaseInterface h number) := by
  rw [releaseInterface_eq_serve]
  exact served_serve _ _ (blind_withHandle h fun _ =>
    blind_ite (blind_error _) (blind_ok _ (ofCore_modifyHandle h _)))

theorem served_setAlternate (alternate : UInt8) : Served (setAlternate h number alternate) := by
  rw [setAlternate_eq_serve]
  exact served_serve _ _ (blind_withHandle h fun held => blind_ite (blind_error _)
    (blind_withDevice held.device fun _ =>
      blind_ite (blind_error _) (blind_ok _ (ofCore_modifyHandle h _))))

theorem served_dataTransfer (m : Method) (kind : TransferType) (endpoint : UInt8)
    (payload : Payload) (timeout : Nat) :
    Served (dataTransfer m kind h endpoint number payload timeout) := by
  rw [dataTransfer_eq_serve]
  refine served_serve _ _ (blind_withHandle h fun held => blind_ite (blind_error _)
    (blind_withDevice held.device fun d => ?_))
  cases d.endpoint? number ((held.alternates.get? number).getD 0) endpoint with
  | none => exact blind_error _
  | some e =>
    exact blind_ite (blind_error _) (blind_ite (blind_error _)
      (blind_map _ fun _ => ofCore_modifyDevice _ _))

theorem served_controlTransfer (setup : Setup) (payload : Payload) (timeout : Nat) :
    Served (controlTransfer h setup payload timeout) := by
  rw [controlTransfer_eq_serve]
  refine served_serve _ _ (blind_withHandle h fun held => blind_withDevice held.device fun d => ?_)
  cases requestDirection setup.requestType with
  | toHost =>
    cases payload with
    | send data => exact blind_error _
    | receive length => exact blind_map _ fun _ => ⟨fun _ => rfl, fun _ => rfl⟩
  | toDevice =>
    cases payload with
    | send data => exact blind_map _ fun _ => ofCore_modifyDevice _ _
    | receive length => exact blind_error _

theorem served_resetDevice : Served (resetDevice h) := by
  rw [resetDevice_eq_serve]
  exact served_serve _ _ (blind_withHandle h fun _ => blind_ok _ (ofCore_modifyDevice _ _))

theorem served_kernelDriverActive : Served (kernelDriverActive h number) := by
  rw [kernelDriverActive_eq_serve]
  exact served_serve _ _ (blind_withHandle h fun held => blind_withDevice held.device fun _ =>
    blind_unchanged _)

theorem served_detachKernelDriver : Served (detachKernelDriver h number) := by
  rw [detachKernelDriver_eq_serve]
  exact served_serve _ _ (blind_withHandle h fun held => blind_withDevice held.device fun _ =>
    blind_ite (blind_error _) (blind_ok _ (ofCore_modifyDevice _ _)))

theorem served_attachKernelDriver : Served (attachKernelDriver h number) := by
  rw [attachKernelDriver_eq_serve]
  exact served_serve _ _ (blind_withHandle h fun held => blind_withDevice held.device fun _ =>
    blind_ite (blind_error _) (blind_ok _ (ofCore_modifyDevice _ _)))

theorem served_clearHalt (endpoint : UInt8) : Served (clearHalt h endpoint) := by
  rw [clearHalt_eq_serve]
  exact served_serve _ _ (blind_withHandle h fun _ => blind_ok _ (ofCore_modifyDevice _ _))

end

/-- Every operation is served so. -/
theorem served_act (op : Operation α) : Served (op.act : Action Bus α) := by
  cases op with
  | devices => exact served_enumerate
  | deviceDescriptor id =>
    change Served (deviceDescriptor id)
    rw [deviceDescriptor_eq_serve]
    exact served_serve _ _ (blind_withDevice id fun _ => blind_unchanged _)
  | configurationDescriptor id config =>
    change Served (configurationDescriptor id config)
    rw [configurationDescriptor_eq_serve]
    exact served_serve _ _ (blind_withDevice id fun _ => blind_bind_unchanged _ _)
  | interfaceDescriptor id interface alternate config =>
    change Served (interfaceDescriptor id interface alternate config)
    rw [interfaceDescriptor_eq_serve]
    exact served_serve _ _ (blind_withDevice id fun _ => blind_bind_unchanged _ _)
  | endpointDescriptor id endpoint interface alternate config =>
    change Served (endpointDescriptor id endpoint interface alternate config)
    rw [endpointDescriptor_eq_serve]
    exact served_serve _ _ (blind_withDevice id fun _ => blind_bind_unchanged _ fun e => e)
  | openDevice id => exact served_openDevice id
  | closeDevice h => exact served_closeDevice h
  | setConfiguration h value => exact served_setConfiguration h value
  | configuration h => exact served_configuration h
  | claimInterface h number => exact served_claimInterface h number
  | releaseInterface h number => exact served_releaseInterface h number
  | setAlternate h number alternate => exact served_setAlternate h number alternate
  | bulkTransfer h endpoint number payload timeout =>
    exact served_dataTransfer h number _ _ endpoint payload timeout
  | interruptTransfer h endpoint number payload timeout =>
    exact served_dataTransfer h number _ _ endpoint payload timeout
  | isochronousTransfer h endpoint number payload timeout =>
    exact served_dataTransfer h number _ _ endpoint payload timeout
  | controlTransfer h setup payload timeout => exact served_controlTransfer h setup payload timeout
  | resetDevice h => exact served_resetDevice h
  | kernelDriverActive h number => exact served_kernelDriverActive h number
  | detachKernelDriver h number => exact served_detachKernelDriver h number
  | attachKernelDriver h number => exact served_attachKernelDriver h number
  | clearHalt h endpoint => exact served_clearHalt h endpoint

/-- What is made to fail stays so. -/
theorem failures_act (op : Operation α) (b : Bus) : (after op.act b).failures = b.failures := by
  obtain ⟨m, timeout, answer, heq, hblind⟩ := served_act op
  rw [heq]
  apply after_serve (P := fun c => c.failures = b.failures)
  · intro c hc
    exact congrArg (·.failures) hc
  · intro a change ha
    exact (hblind.change ha).failures _

/-- Buses with the same core return the same, and then have the same core again. -/
theorem act_congr (op : Operation α) {b c : Bus} (h : b.core = c.core) :
    outcome op.act b = outcome op.act c ∧ (after op.act b).core = (after op.act c).core := by
  obtain ⟨m, timeout, answer, heq, hblind⟩ := served_act op
  have hf : b.failures = c.failures := (Bus.mk.inj h).2.2.2.2.1
  have ha : answer b = answer c := hblind.congr h
  rw [heq]
  constructor
  · rw [outcome_serve, outcome_serve, hf, ha]
  · simp only [after, serve, hf, ha]
    cases c.failures.get? m with
    | some kind => exact h
    | none =>
      cases hr : answer c with
      | error e => exact h
      | ok r =>
        obtain ⟨a, change⟩ := r
        have hchange : OfCore change := hblind.change hr
        change (change (b.counted m timeout)).core = (change (c.counted m timeout)).core
        rw [hchange.core, hchange.core (c.counted m timeout), core_counted, core_counted, h]

end SerialBus.Loopback.Bus
