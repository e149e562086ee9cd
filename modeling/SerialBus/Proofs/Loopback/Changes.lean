import SerialBus.Proofs.Loopback.Operations
import SerialBus.Proofs.Operation

/-! What the operations of a loopback bus change. Each is taken apart once: it fails and all stays
as it was, or it changes the handle or the device that it is for. What it leaves alone follows from
its changes. -/
namespace SerialBus

/-- Whether the operation can change a handle. -/
def Operation.changesHandles {α : Type} (op : Operation α) : Bool := op.changesOwners || op.selects

namespace Loopback.Bus

open SerialBus.Action

variable {α : Type}

/-! How each operation that changes a handle or a device ends. -/

section

variable (b : Bus) (h : HandleId) (number : UInt8)

theorem openDevice_cases (id : DeviceId) :
    (∃ e, outcome (openDevice id) b = .error e ∧ (after (openDevice id) b).core = b.core) ∨
    outcome (openDevice id) b = .ok ⟨b.nextHandle⟩ ∧
      after (openDevice id) b = { b.counted .openDevice none with
        nextHandle := b.nextHandle + 1
        handles := b.handles.insert ⟨b.nextHandle⟩
          { device := id, claimed := ∅, alternates := ∅ } } := by
  rw [openDevice_eq_serve]
  rcases serve_cases .openDevice none _ b with hl | ⟨a, change, ha, ho, hs⟩
  · exact .inl hl
  · obtain ⟨d, -, ha⟩ := withDevice_eq_ok.1 ha
    cases ha
    exact .inr ⟨ho, hs⟩

theorem closeDevice_cases :
    (∃ e, outcome (closeDevice h) b = .error e ∧ (after (closeDevice h) b).core = b.core) ∨
    outcome (closeDevice h) b = .ok () ∧
      after (closeDevice h) b =
        { b.counted .closeDevice none with handles := b.handles.erase h } := by
  rw [closeDevice_eq_serve]
  rcases serve_cases .closeDevice none _ b with hl | ⟨a, change, ha, ho, hs⟩
  · exact .inl hl
  · obtain ⟨held, -, ha⟩ := withHandle_eq_ok.1 ha
    cases ha
    exact .inr ⟨ho, hs⟩

theorem claimInterface_cases :
    (∃ e, outcome (claimInterface h number) b = .error e ∧
      (after (claimInterface h number) b).core = b.core) ∨
    ∃ held, b.handles.get? h = some held ∧ held.claimed.contains number = false ∧
      outcome (claimInterface h number) b = .ok () ∧
      after (claimInterface h number) b = (b.counted .claimInterface none).modifyHandle h
        fun held => { held with claimed := held.claimed.add number } := by
  rw [claimInterface_eq_serve]
  rcases serve_cases .claimInterface none _ b with hl | ⟨a, change, ha, ho, hs⟩
  · exact .inl hl
  · obtain ⟨held, hh, ha⟩ := withHandle_eq_ok.1 ha
    split at ha
    · cases ha
    · next hn =>
        cases ha
        exact .inr ⟨held, hh, Bool.eq_false_iff.2 hn, ho, hs⟩

theorem releaseInterface_cases :
    (∃ e, outcome (releaseInterface h number) b = .error e ∧
      (after (releaseInterface h number) b).core = b.core) ∨
    ∃ held, b.handles.get? h = some held ∧ held.claimed.contains number = true ∧
      outcome (releaseInterface h number) b = .ok () ∧
      after (releaseInterface h number) b = (b.counted .releaseInterface none).modifyHandle h
        fun held => { held with
          claimed := held.claimed.erase number
          alternates := held.alternates.erase number } := by
  rw [releaseInterface_eq_serve]
  rcases serve_cases .releaseInterface none _ b with hl | ⟨a, change, ha, ho, hs⟩
  · exact .inl hl
  · obtain ⟨held, hh, ha⟩ := withHandle_eq_ok.1 ha
    split at ha
    · cases ha
    · next hn =>
        cases ha
        exact .inr ⟨held, hh, by simpa using hn, ho, hs⟩

end

theorem setConfiguration_cases (h : HandleId) (value : UInt8) (b : Bus) :
    (∃ e, outcome (setConfiguration h value) b = .error e ∧
      (after (setConfiguration h value) b).core = b.core) ∨
    ∃ held d, b.handles.get? h = some held ∧ b.device? held.device = some d ∧
      (value ≠ 0 → (d.spec.configurationByValue? value).isSome) ∧
      outcome (setConfiguration h value) b = .ok () ∧
      after (setConfiguration h value) b =
        ((b.counted .setConfiguration none).modifyDevice held.device fun d => { d with
          activeConfiguration := value }).modifyHandle h
            fun held => { held with alternates := ∅ } := by
  rw [setConfiguration_eq_serve]
  rcases serve_cases .setConfiguration none _ b with hl | ⟨a, change, ha, ho, hs⟩
  · exact .inl hl
  · obtain ⟨held, hh, ha⟩ := withHandle_eq_ok.1 ha
    obtain ⟨d, hd, ha⟩ := withDevice_eq_ok.1 ha
    split at ha
    · cases ha
    next hvalue =>
      cases ha
      refine .inr ⟨held, d, hh, hd, fun hne => ?_, ho, hs⟩
      cases hc : d.spec.configurationByValue? value with
      | none => exact absurd ⟨hne, by rw [hc]; rfl⟩ hvalue
      | some c => rfl

theorem setAlternate_cases (h : HandleId) (number alternate : UInt8) (b : Bus) :
    (∃ e, outcome (setAlternate h number alternate) b = .error e ∧
      (after (setAlternate h number alternate) b).core = b.core) ∨
    ∃ held d, b.handles.get? h = some held ∧ b.device? held.device = some d ∧
      outcome (setAlternate h number alternate) b = .ok () ∧
      after (setAlternate h number alternate) b =
        (b.counted .setInterfaceAltsetting none).modifyHandle h fun held => { held with
          alternates := held.alternates.insert number alternate } := by
  rw [setAlternate_eq_serve]
  rcases serve_cases .setInterfaceAltsetting none _ b with hl | ⟨a, change, ha, ho, hs⟩
  · exact .inl hl
  · obtain ⟨held, hh, ha⟩ := withHandle_eq_ok.1 ha
    split at ha
    · cases ha
    · obtain ⟨d, hd, ha⟩ := withDevice_eq_ok.1 ha
      split at ha <;> cases ha
      exact .inr ⟨held, d, hh, hd, ho, hs⟩

/-- A control transfer fails, or reads what the device replies, or stores what it is sent. -/
theorem controlTransfer_cases (h : HandleId) (setup : Setup) (payload : Payload) (timeout : Nat)
    (b : Bus) :
    (∃ e, outcome (controlTransfer h setup payload timeout) b = .error e ∧
      (after (controlTransfer h setup payload timeout) b).core = b.core) ∨
    ∃ held d, b.handles.get? h = some held ∧ b.device? held.device = some d ∧
      ((∃ length data, requestDirection setup.requestType = .toHost ∧ payload = .receive length ∧
          controlReply d held setup length = .ok data ∧
          outcome (controlTransfer h setup payload timeout) b = .ok (.read data) ∧
          (after (controlTransfer h setup payload timeout) b).core = b.core) ∨
        ∃ data d', requestDirection setup.requestType = .toDevice ∧ payload = .send data ∧
          controlStore d setup data = .ok d' ∧
          outcome (controlTransfer h setup payload timeout) b = .ok (.written data.length) ∧
          after (controlTransfer h setup payload timeout) b =
            (b.counted .ctrlTransfer (some timeout)).modifyDevice held.device fun _ => d') := by
  rw [controlTransfer_eq_serve]
  rcases serve_cases .ctrlTransfer (some timeout) _ b with hl | ⟨a, change, ha, ho, hs⟩
  · exact .inl hl
  · obtain ⟨held, hh, ha⟩ := withHandle_eq_ok.1 ha
    obtain ⟨d, hd, ha⟩ := withDevice_eq_ok.1 ha
    refine .inr ⟨held, d, hh, hd, ?_⟩
    obtain hdirection | hdirection : requestDirection setup.requestType = .toHost ∨
        requestDirection setup.requestType = .toDevice := by
      cases requestDirection setup.requestType <;> simp
    · cases payload with
      | send data => simp [hdirection] at ha
      | receive length =>
        simp only [hdirection] at ha
        obtain ⟨data, hreply, ha⟩ := map_eq_ok.1 ha
        cases ha
        refine .inl ⟨length, data, hdirection, rfl, hreply, ho, ?_⟩
        rw [hs]
        exact core_counted b _ _
    · cases payload with
      | receive length => simp [hdirection] at ha
      | send data =>
        simp only [hdirection] at ha
        obtain ⟨d', hstore, ha⟩ := map_eq_ok.1 ha
        cases ha
        exact .inr ⟨data, d', hdirection, rfl, hstore, ho, hs⟩

theorem resetDevice_cases (h : HandleId) (b : Bus) :
    (∃ e, outcome (resetDevice h) b = .error e ∧ (after (resetDevice h) b).core = b.core) ∨
    ∃ held, b.handles.get? h = some held ∧ outcome (resetDevice h) b = .ok () ∧
      after (resetDevice h) b =
        (b.counted .resetDevice none).modifyDevice held.device fun d => { d with
          pipes := ∅
          controlBuffer := []
          halted := ∅ } := by
  rw [resetDevice_eq_serve]
  rcases serve_cases .resetDevice none _ b with hl | ⟨a, change, ha, ho, hs⟩
  · exact .inl hl
  · obtain ⟨held, hh, ha⟩ := withHandle_eq_ok.1 ha
    cases ha
    exact .inr ⟨held, hh, ho, hs⟩

theorem clearHalt_cases (h : HandleId) (endpoint : UInt8) (b : Bus) :
    (∃ e, outcome (clearHalt h endpoint) b = .error e ∧
      (after (clearHalt h endpoint) b).core = b.core) ∨
    ∃ held, b.handles.get? h = some held ∧ outcome (clearHalt h endpoint) b = .ok () ∧
      after (clearHalt h endpoint) b =
        (b.counted .clearHalt none).modifyDevice held.device fun d => { d with
          halted := d.halted.erase endpoint } := by
  rw [clearHalt_eq_serve]
  rcases serve_cases .clearHalt none _ b with hl | ⟨a, change, ha, ho, hs⟩
  · exact .inl hl
  · obtain ⟨held, hh, ha⟩ := withHandle_eq_ok.1 ha
    cases ha
    exact .inr ⟨held, hh, ho, hs⟩

theorem detachKernelDriver_cases (h : HandleId) (number : UInt8) (b : Bus) :
    (∃ e, outcome (detachKernelDriver h number) b = .error e ∧
      (after (detachKernelDriver h number) b).core = b.core) ∨
    ∃ held, b.handles.get? h = some held ∧ outcome (detachKernelDriver h number) b = .ok () ∧
      after (detachKernelDriver h number) b =
        (b.counted .detachKernelDriver none).modifyDevice held.device fun d => { d with
          kernelDrivers := d.kernelDrivers.erase number } := by
  rw [detachKernelDriver_eq_serve]
  rcases serve_cases .detachKernelDriver none _ b with hl | ⟨a, change, ha, ho, hs⟩
  · exact .inl hl
  · obtain ⟨held, hh, ha⟩ := withHandle_eq_ok.1 ha
    obtain ⟨d, -, ha⟩ := withDevice_eq_ok.1 ha
    split at ha <;> cases ha
    exact .inr ⟨held, hh, ho, hs⟩

theorem attachKernelDriver_cases (h : HandleId) (number : UInt8) (b : Bus) :
    (∃ e, outcome (attachKernelDriver h number) b = .error e ∧
      (after (attachKernelDriver h number) b).core = b.core) ∨
    ∃ held, b.handles.get? h = some held ∧ outcome (attachKernelDriver h number) b = .ok () ∧
      after (attachKernelDriver h number) b =
        (b.counted .attachKernelDriver none).modifyDevice held.device fun d => { d with
          kernelDrivers := d.kernelDrivers.add number } := by
  rw [attachKernelDriver_eq_serve]
  rcases serve_cases .attachKernelDriver none _ b with hl | ⟨a, change, ha, ho, hs⟩
  · exact .inl hl
  · obtain ⟨held, hh, ha⟩ := withHandle_eq_ok.1 ha
    obtain ⟨d, -, ha⟩ := withDevice_eq_ok.1 ha
    split at ha <;> cases ha
    exact .inr ⟨held, hh, ho, hs⟩

/-! The changes of a device. -/

/-- A move of data changes the queues only. -/
theorem pipes_of_moveData {d : DeviceState} {endpoint : UInt8} {payload : Payload}
    {r : Transferred × DeviceState} (h : moveData d endpoint payload = .ok r) :
    ∃ pipes, r.2 = { d with pipes } := by
  cases payload with
  | send data =>
    simp only [moveData] at h
    split at h <;> cases h
    exact ⟨_, rfl⟩
  | receive length =>
    simp only [moveData] at h
    split at h
    · split at h <;> cases h
      exact ⟨_, rfl⟩
    · cases h

/-- A control request changes the control data and the halts only. -/
theorem stored_of_controlStore {d d' : DeviceState} {setup : Setup} {data : List UInt8}
    (h : controlStore d setup data = .ok d') :
    ∃ controlBuffer halted, d' = { d with controlBuffer, halted } := by
  unfold controlStore at h
  dsimp only at h
  cases hk : requestKind setup.requestType with
  | vendor =>
    rw [hk] at h
    cases h
    exact ⟨data, d.halted, rfl⟩
  | standard =>
    rw [hk] at h
    dsimp only at h
    split at h
    · cases h
      split <;> exact ⟨d.controlBuffer, _, rfl⟩
    · split at h
      · cases h
        split <;> exact ⟨d.controlBuffer, _, rfl⟩
      · cases h
  | _ =>
    rw [hk] at h
    cases h

/-- What an operation makes of the device that it is for. -/
inductive Turns (d : DeviceState) : {α : Type} → Operation α → DeviceState → Prop
  | configured (h : HandleId) (value : UInt8) :
    Turns d (.setConfiguration h value) { d with activeConfiguration := value }
  | moved {α : Type} {op : Operation α} {endpoint : UInt8} {payload : Payload}
      {r : Transferred × DeviceState} (hop : op.movesData = true)
      (hmove : moveData d endpoint payload = .ok r) : Turns d op r.2
  | stored {h : HandleId} {setup : Setup} {data : List UInt8} {timeout : Nat} {d' : DeviceState}
      (hstore : controlStore d setup data = .ok d') :
    Turns d (.controlTransfer h setup (.send data) timeout) d'
  | emptied (h : HandleId) :
    Turns d (.resetDevice h) { d with
      pipes := ∅
      controlBuffer := []
      halted := ∅ }
  | detached (h : HandleId) (number : UInt8) :
    Turns d (.detachKernelDriver h number) { d with
      kernelDrivers := d.kernelDrivers.erase number }
  | attached (h : HandleId) (number : UInt8) :
    Turns d (.attachKernelDriver h number) { d with kernelDrivers := d.kernelDrivers.add number }
  | resumed (h : HandleId) (endpoint : UInt8) :
    Turns d (.clearHalt h endpoint) { d with halted := d.halted.erase endpoint }

/-- No operation changes what a device is. -/
theorem Turns.spec {d d' : DeviceState} {op : Operation α} (h : Turns d op d') :
    d'.spec = d.spec := by
  cases h with
  | moved _ hmove =>
    obtain ⟨pipes, hr⟩ := pipes_of_moveData hmove
    rw [hr]
  | stored hstore =>
    obtain ⟨buffer, halted, hd⟩ := stored_of_controlStore hstore
    rw [hd]
  | _ => rfl

/-- What an operation makes of the bus, apart from what is counted and noted down. -/
inductive Change (b : Bus) : {α : Type} → Operation α → Bus → Prop
  | none {α : Type} (op : Operation α) : Change b op b
  | opened (id : DeviceId) :
    Change b (.openDevice id) { b with
      nextHandle := b.nextHandle + 1
      handles := b.handles.insert ⟨b.nextHandle⟩
        { device := id, claimed := ∅, alternates := ∅ } }
  | closed (h : HandleId) : Change b (.closeDevice h) { b with handles := b.handles.erase h }
  | claimed (h : HandleId) (number : UInt8) :
    Change b (.claimInterface h number) (b.modifyHandle h fun held => { held with
      claimed := held.claimed.add number })
  | released (h : HandleId) (number : UInt8) :
    Change b (.releaseInterface h number) (b.modifyHandle h fun held => { held with
      claimed := held.claimed.erase number
      alternates := held.alternates.erase number })
  | selected (h : HandleId) (number alternate : UInt8) :
    Change b (.setAlternate h number alternate) (b.modifyHandle h fun held => { held with
      alternates := held.alternates.insert number alternate })
  | configured {h : HandleId} {value : UInt8} {held : Handle} (hh : b.handles.get? h = some held) :
    Change b (.setConfiguration h value)
      ((b.modifyDevice held.device fun d => { d with activeConfiguration := value }).modifyHandle h
        fun held => { held with alternates := ∅ })
  | turned {α : Type} {op : Operation α} {h : HandleId} {held : Handle}
      {f : DeviceState → DeviceState} (hop : op.changesHandles = false)
      (hh : b.handles.get? h = some held)
      (hf : ∀ d, b.device? held.device = some d → Turns d op (f d)) :
    Change b op (b.modifyDevice held.device f)

/-- The three kinds of data transfer move data, or fail. -/
private theorem change_dataTransfer {op : Operation Transferred} (hmoves : op.movesData = true)
    (hop : op.changesHandles = false) (b : Bus) {m : Method} {kind : TransferType} {h : HandleId}
    {endpoint number : UInt8} {payload : Payload} {timeout : Nat}
    (hact : op.act = dataTransfer m kind h endpoint number payload timeout) :
    ∃ c, Change b op c ∧ (after op.act b).core = c.core := by
  rw [hact]
  rcases dataTransfer_cases m kind h endpoint number payload timeout b with
    ⟨e, -, hc⟩ | ⟨held, d, r, hh, hd, hr, -, hs⟩
  · exact ⟨b, .none op, hc⟩
  · refine ⟨_, .turned (f := fun _ => r.2) hop hh fun e he => ?_, (congrArg core hs).trans rfl⟩
    cases hd.symm.trans he
    exact .moved hmoves hr

/-- An operation fails, only reads, or makes one of the changes. -/
theorem change_act (op : Operation α) (b : Bus) :
    ∃ c, Change b op c ∧ (after op.act b).core = c.core := by
  have hkept : (after op.act b).core = b.core →
      ∃ c, Change b op c ∧ (after op.act b).core = c.core := fun h => ⟨b, .none op, h⟩
  cases op with
  | devices => exact hkept (core_enumerate b)
  | deviceDescriptor id => exact hkept (core_deviceDescriptor id b)
  | configurationDescriptor id config => exact hkept (core_configurationDescriptor id config b)
  | interfaceDescriptor id interface alternate config =>
    exact hkept (core_interfaceDescriptor id interface alternate config b)
  | endpointDescriptor id endpoint interface alternate config =>
    exact hkept (core_endpointDescriptor id endpoint interface alternate config b)
  | configuration h => exact hkept (core_configuration h b)
  | kernelDriverActive h number => exact hkept (core_kernelDriverActive h number b)
  | openDevice id =>
    rcases openDevice_cases b id with ⟨e, -, hc⟩ | ⟨-, hs⟩
    · exact hkept hc
    · exact ⟨_, .opened id, (congrArg core hs).trans rfl⟩
  | closeDevice h =>
    rcases closeDevice_cases b h with ⟨e, -, hc⟩ | ⟨-, hs⟩
    · exact hkept hc
    · exact ⟨_, .closed h, (congrArg core hs).trans rfl⟩
  | claimInterface h number =>
    rcases claimInterface_cases b h number with ⟨e, -, hc⟩ | ⟨held, -, -, -, hs⟩
    · exact hkept hc
    · exact ⟨_, .claimed h number, (congrArg core hs).trans rfl⟩
  | releaseInterface h number =>
    rcases releaseInterface_cases b h number with ⟨e, -, hc⟩ | ⟨held, -, -, -, hs⟩
    · exact hkept hc
    · exact ⟨_, .released h number, (congrArg core hs).trans rfl⟩
  | setAlternate h number alternate =>
    rcases setAlternate_cases h number alternate b with ⟨e, -, hc⟩ | ⟨held, d, -, -, -, hs⟩
    · exact hkept hc
    · exact ⟨_, .selected h number alternate, (congrArg core hs).trans rfl⟩
  | setConfiguration h value =>
    rcases setConfiguration_cases h value b with ⟨e, -, hc⟩ | ⟨held, d, hh, -, -, -, hs⟩
    · exact hkept hc
    · exact ⟨_, .configured hh, (congrArg core hs).trans rfl⟩
  | bulkTransfer h endpoint number payload timeout =>
    exact change_dataTransfer rfl rfl b rfl
  | interruptTransfer h endpoint number payload timeout =>
    exact change_dataTransfer rfl rfl b rfl
  | isochronousTransfer h endpoint number payload timeout =>
    exact change_dataTransfer rfl rfl b rfl
  | controlTransfer h setup payload timeout =>
    rcases controlTransfer_cases h setup payload timeout b with ⟨e, -, hc⟩ |
      ⟨held, d, hh, hd, ⟨length, data, -, -, -, -, hc⟩ | ⟨data, d', -, rfl, hstore, -, hs⟩⟩
    · exact hkept hc
    · exact hkept hc
    · refine ⟨_, .turned (f := fun _ => d') rfl hh fun e he => ?_, (congrArg core hs).trans rfl⟩
      cases hd.symm.trans he
      exact .stored hstore
  | resetDevice h =>
    rcases resetDevice_cases h b with ⟨e, -, hc⟩ | ⟨held, hh, -, hs⟩
    · exact hkept hc
    · exact ⟨_, .turned rfl hh fun _ _ => .emptied h, (congrArg core hs).trans rfl⟩
  | detachKernelDriver h number =>
    rcases detachKernelDriver_cases h number b with ⟨e, -, hc⟩ | ⟨held, hh, -, hs⟩
    · exact hkept hc
    · exact ⟨_, .turned rfl hh fun _ _ => .detached h number, (congrArg core hs).trans rfl⟩
  | attachKernelDriver h number =>
    rcases attachKernelDriver_cases h number b with ⟨e, -, hc⟩ | ⟨held, hh, -, hs⟩
    · exact hkept hc
    · exact ⟨_, .turned rfl hh fun _ _ => .attached h number, (congrArg core hs).trans rfl⟩
  | clearHalt h endpoint =>
    rcases clearHalt_cases h endpoint b with ⟨e, -, hc⟩ | ⟨held, hh, -, hs⟩
    · exact hkept hc
    · exact ⟨_, .turned rfl hh fun _ _ => .resumed h endpoint, (congrArg core hs).trans rfl⟩

/-! What follows for each device from what it may turn into. -/

variable {b c : Bus}

/-- Each device shows the same to `view`. -/
def Same {β : Type} (view : DeviceState → β) (b c : Bus) : Prop :=
  ∀ id, (c.device? id).map view = (b.device? id).map view

theorem same_of_devices {β : Type} {view : DeviceState → β} (h : c.devices = b.devices) :
    Same view b c := fun id => by
  unfold device?
  rw [h]

theorem same_modifyDevice {β : Type} {view : DeviceState → β} {id : DeviceId}
    {f : DeviceState → DeviceState} (hf : ∀ d, b.device? id = some d → view (f d) = view d) :
    Same view b (b.modifyDevice id f) := by
  intro i
  rw [device?_modifyDevice]
  split
  next heq =>
    subst heq
    cases hd : b.device? id with
    | none => rfl
    | some d => exact congrArg some (hf d hd)
  next => rfl

/-- What no turn of a device changes, the operation leaves on all devices. -/
theorem same_act {β : Type} {view : DeviceState → β} {op : Operation α}
    (hv : ∀ {d d'}, Turns d op d' → view d' = view d) (b : Bus) :
    Same view b (after op.act b) := by
  obtain ⟨c, hchange, hcore⟩ := change_act op b
  have hsame : Same view b c := by
    cases hchange with
    | configured hh => exact same_modifyDevice fun _ _ => hv (.configured _ _)
    | turned _ hh hf => exact same_modifyDevice fun d hd => hv (hf d hd)
    | _ => exact same_of_devices rfl
  have hdevices : (after op.act b).devices = c.devices := congrArg (·.devices) hcore
  exact fun id => (same_of_devices hdevices id).trans (hsame id)

/-- Handles are left by all operations but those that open, close, claim, release or select. -/
theorem handles_act {op : Operation α} (h : op.changesHandles = false) (b : Bus) :
    (after op.act b).handles = b.handles := by
  obtain ⟨c, hchange, hcore⟩ := change_act op b
  have hhandles : (after op.act b).handles = c.handles := congrArg (·.handles) hcore
  rw [hhandles]
  cases hchange with
  | none | turned => rfl
  | _ => cases h

end Loopback.Bus

end SerialBus
