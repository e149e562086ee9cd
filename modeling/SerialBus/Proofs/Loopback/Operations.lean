import SerialBus.Loopback.Operations
import SerialBus.Proofs.Action

/-! Each operation of a loopback bus as one answer to the state that it meets: an injected failure,
an error, or a result with a change of the bus. Only the counters change where it fails. -/
namespace SerialBus.Loopback.Bus

open SerialBus.Action

variable {α : Type}

/-- The bus apart from what it counts and notes down. -/
def core (b : Bus) : Bus := { b with calls := ∅, lastTimeout := none }

/-- The bus with one more call counted and the timeout noted down, if the call has one. -/
def counted (b : Bus) (m : Method) (timeout : Option Nat) : Bus :=
  { b with
    calls := b.calls.insert m (b.callCount m + 1)
    lastTimeout := timeout.or b.lastTimeout }

@[simp] theorem core_counted (b : Bus) (m : Method) (timeout : Option Nat) :
    (b.counted m timeout).core = b.core := rfl

/-- A result together with the change that it makes. -/
abbrev Answer (α : Type) : Type := Except UsbError (α × (Bus → Bus))

/-- A call that is counted, and then answered if it is not made to fail. -/
def serve (m : Method) (timeout : Option Nat) (answer : Bus → Answer α) : Action Bus α := fun b =>
  match b.failures.get? m with
  | some kind => .error (.transport kind none) (b.counted m none)
  | none =>
    match answer b with
    | .ok (a, change) => .ok a (change (b.counted m timeout))
    | .error e => .error e (b.counted m timeout)

theorem outcome_serve (m : Method) (timeout : Option Nat) (answer : Bus → Answer α) (b : Bus) :
    outcome (serve m timeout answer) b =
      match b.failures.get? m with
      | some kind => .error (.transport kind none)
      | none => (answer b).map Prod.fst := by
  simp only [outcome, serve]
  cases b.failures.get? m with
  | some kind => rfl
  | none => cases answer b <;> rfl

/-- What is true of the state after a call: nothing happened but counting, or the answer did. -/
theorem serve_cases (m : Method) (timeout : Option Nat) (answer : Bus → Answer α) (b : Bus) :
    (∃ e, outcome (serve m timeout answer) b = .error e ∧
      (after (serve m timeout answer) b).core = b.core) ∨
    ∃ a change, answer b = .ok (a, change) ∧ outcome (serve m timeout answer) b = .ok a ∧
      after (serve m timeout answer) b = change (b.counted m timeout) := by
  simp only [outcome, after, serve]
  cases b.failures.get? m with
  | some kind => exact .inl ⟨_, rfl, rfl⟩
  | none =>
    cases answer b with
    | error e => exact .inl ⟨e, rfl, rfl⟩
    | ok r =>
      obtain ⟨a, change⟩ := r
      exact .inr ⟨a, change, rfl, rfl, rfl⟩

/-- What is not made to fail is answered. -/
theorem serve_of_working (m : Method) (timeout : Option Nat) (answer : Bus → Answer α) {b : Bus}
    (hf : b.failures = ∅) :
    outcome (serve m timeout answer) b = (answer b).map Prod.fst ∧
      after (serve m timeout answer) b =
        match answer b with
        | .ok r => r.2 (b.counted m timeout)
        | .error _ => b.counted m timeout := by
  have hnone : b.failures.get? m = none := by rw [hf]; rfl
  simp only [outcome, after, serve, hnone]
  cases answer b <;> exact ⟨rfl, rfl⟩

/-- What holds of all buses with the same core, and of what the answer leaves, holds in the end. -/
theorem after_serve {P : Bus → Prop} {m : Method} {timeout : Option Nat} {answer : Bus → Answer α}
    {b : Bus} (hc : ∀ c : Bus, c.core = b.core → P c)
    (ha : ∀ a change, answer b = .ok (a, change) → P (change (b.counted m timeout))) :
    P (after (serve m timeout answer) b) := by
  rcases serve_cases m timeout answer b with ⟨e, -, h⟩ | ⟨a, change, h, -, hs⟩
  · exact hc _ h
  · rw [hs]
    exact ha a change h

theorem enter_apply (m : Method) (b : Bus) :
    enter m b =
      match b.failures.get? m with
      | some kind => .error (.transport kind none) (b.counted m none)
      | none => .ok () (b.counted m none) := by
  have hcounted : enter m b = (match b.failures.get? m with
      | some kind => throw (.transport kind none)
      | none => pure () : Action Bus Unit) (b.counted m none) := by
    unfold counted
    rw [Option.none_or]
    rfl
  rw [hcounted]
  cases b.failures.get? m <;> rfl

/-- An operation that enters is served if its rest gives the answer. -/
private theorem enter_bind_eq_serve {m : Method} {timeout : Option Nat} {answer : Bus → Answer α}
    {rest : Action Bus α}
    (h : ∀ b : Bus, rest (b.counted m none) =
      match answer b with
      | .ok (a, change) => .ok a (change (b.counted m timeout))
      | .error e => .error e (b.counted m timeout)) :
    (enter m >>= fun _ => rest) = serve m timeout answer := by
  funext b
  simp only [bind, EStateM.bind, enter_apply, serve]
  cases b.failures.get? m with
  | some kind => rfl
  | none => exact h b

/-! How the parts of an operation act on a state. -/

private theorem get_apply (b : Bus) : (get : Action Bus Bus) b = .ok b b := rfl

private theorem handle_bind_apply (h : HandleId) (f : Handle → Action Bus α) (b : Bus) :
    (handle h >>= f) b =
      match b.handles.get? h with
      | some held => f held b
      | none => .error invalidParam b := by
  simp only [handle, bind, EStateM.bind, get_apply]
  cases b.handles.get? h <;> rfl

private theorem device_bind_apply (id : DeviceId) (f : DeviceState → Action Bus α) (b : Bus) :
    (device id >>= f) b =
      match b.device? id with
      | some d => f d b
      | none => .error noDevice b := by
  simp only [device, bind, EStateM.bind, get_apply]
  cases b.device? id <;> rfl

private theorem refuse_apply {c : Prop} [Decidable c] (e : UsbError) (f : PUnit → Action Bus α)
    (act : Action Bus α) (b : Bus) :
    (if c then throw e >>= f else act : Action Bus α) b = if c then .error e b else act b := by
  split <;> rfl

/-- The answer that needs an open handle. -/
def withHandle (h : HandleId) (answer : Handle → Answer α) (b : Bus) : Answer α :=
  match b.handles.get? h with
  | some held => answer held
  | none => .error invalidParam

/-- The answer that needs a device. -/
def withDevice (id : DeviceId) (answer : DeviceState → Answer α) (b : Bus) : Answer α :=
  match b.device? id with
  | some d => answer d
  | none => .error noDevice

theorem withHandle_eq_ok {h : HandleId} {answer : Handle → Answer α} {b : Bus}
    {r : α × (Bus → Bus)} :
    withHandle h answer b = .ok r ↔ ∃ held, b.handles.get? h = some held ∧ answer held = .ok r := by
  unfold withHandle
  cases b.handles.get? h <;> simp

theorem withDevice_eq_ok {id : DeviceId} {answer : DeviceState → Answer α} {b : Bus}
    {r : α × (Bus → Bus)} :
    withDevice id answer b = .ok r ↔ ∃ d, b.device? id = some d ∧ answer d = .ok r := by
  unfold withDevice
  cases b.device? id <;> simp

theorem map_eq_ok {β : Type} {f : α → β} {x : Except UsbError α} {r : β} :
    x.map f = .ok r ↔ ∃ a, x = .ok a ∧ f a = r := by
  cases x <;> simp [Except.map]

/-- A result that changes nothing. -/
def unchanged (a : α) : Answer α := .ok (a, fun b => b)

theorem enumerate_eq_serve : enumerate = serve .enumerateDevices none fun b =>
    unchanged ((List.range b.devices.length).map DeviceId.mk) :=
  enter_bind_eq_serve fun _ => rfl

theorem deviceDescriptor_eq_serve (id : DeviceId) :
    deviceDescriptor id = serve .getDeviceDescriptor none
      (withDevice id fun d => unchanged d.spec.descriptor) := by
  refine enter_bind_eq_serve fun b => ?_
  simp only [device_bind_apply, withDevice, device?, counted]
  cases b.devices[id.number]? <;> rfl

/-- The configuration at a position, or the error that there is none. -/
def configurationOf (spec : Device) (config : UInt8) : Except UsbError Configuration :=
  match spec.configurations[config.toNat]? with
  | some c => .ok c
  | none => .error (.invalidDescriptorIndex .configuration config)

def alternateOf (spec : Device) (interface alternate config : UInt8) :
    Except UsbError Alternate :=
  (configurationOf spec config).bind fun c =>
    match c.interfaces[interface.toNat]? with
    | none => .error (.invalidDescriptorIndex .interface interface)
    | some alternates =>
      match alternates[alternate.toNat]? with
      | some a => .ok a
      | none => .error (.invalidDescriptorIndex .alternateSetting alternate)

def endpointOf (spec : Device) (endpoint interface alternate config : UInt8) :
    Except UsbError EndpointDescriptor :=
  (alternateOf spec interface alternate config).bind fun a =>
    match a.endpoints[endpoint.toNat]? with
    | some e => .ok e
    | none => .error (.invalidDescriptorIndex .endpoint endpoint)

private theorem configurationAt_bind_apply (id : DeviceId) (config : UInt8)
    (f : Configuration → Action Bus α) (b : Bus) :
    (configurationAt id config >>= f) b =
      match b.device? id with
      | none => .error noDevice b
      | some d =>
        match configurationOf d.spec config with
        | .ok c => f c b
        | .error e => .error e b := by
  unfold configurationAt configurationOf
  rw [bind_assoc, device_bind_apply]
  cases b.device? id with
  | none => rfl
  | some d =>
    simp only
    cases d.spec.configurations[config.toNat]? <;> rfl

private theorem alternateAt_bind_apply (id : DeviceId) (interface alternate config : UInt8)
    (f : Alternate → Action Bus α) (b : Bus) :
    (alternateAt id interface alternate config >>= f) b =
      match b.device? id with
      | none => .error noDevice b
      | some d =>
        match alternateOf d.spec interface alternate config with
        | .ok a => f a b
        | .error e => .error e b := by
  unfold alternateAt alternateOf
  rw [bind_assoc, configurationAt_bind_apply]
  cases b.device? id with
  | none => rfl
  | some d =>
    simp only
    cases configurationOf d.spec config with
    | error e => rfl
    | ok c =>
      simp only [Except.bind]
      cases c.interfaces[interface.toNat]? with
      | none => rfl
      | some alternates =>
        simp only
        cases alternates[alternate.toNat]? <;> rfl

theorem configurationDescriptor_eq_serve (id : DeviceId) (config : UInt8) :
    configurationDescriptor id config = serve .getConfigurationDescriptor none
      (withDevice id fun d => (configurationOf d.spec config).bind fun c =>
        unchanged c.descriptor) := by
  refine enter_bind_eq_serve fun b => ?_
  simp only [configurationAt_bind_apply, withDevice, device?, counted]
  cases b.devices[id.number]? with
  | none => rfl
  | some d =>
    simp only
    cases configurationOf d.spec config <;> rfl

theorem interfaceDescriptor_eq_serve (id : DeviceId) (interface alternate config : UInt8) :
    interfaceDescriptor id interface alternate config = serve .getInterfaceDescriptor none
      (withDevice id fun d => (alternateOf d.spec interface alternate config).bind fun a =>
        unchanged a.descriptor) := by
  refine enter_bind_eq_serve fun b => ?_
  simp only [alternateAt_bind_apply, withDevice, device?, counted]
  cases b.devices[id.number]? with
  | none => rfl
  | some d =>
    simp only
    cases alternateOf d.spec interface alternate config <;> rfl

theorem endpointDescriptor_eq_serve (id : DeviceId) (endpoint interface alternate config : UInt8) :
    endpointDescriptor id endpoint interface alternate config =
      serve .getEndpointDescriptor none
        (withDevice id fun d => (endpointOf d.spec endpoint interface alternate config).bind
          unchanged) := by
  refine enter_bind_eq_serve fun b => ?_
  simp only [alternateAt_bind_apply, withDevice, device?, counted, endpointOf]
  cases b.devices[id.number]? with
  | none => rfl
  | some d =>
    simp only
    cases alternateOf d.spec interface alternate config with
    | error e => rfl
    | ok a =>
      simp only [Except.bind]
      cases a.endpoints[endpoint.toNat]? <;> rfl

theorem openDevice_eq_serve (id : DeviceId) :
    openDevice id = serve .openDevice none fun b => withDevice id (fun _ =>
      .ok (⟨b.nextHandle⟩, fun c => { c with
        nextHandle := b.nextHandle + 1
        handles := c.handles.insert ⟨b.nextHandle⟩
          { device := id, claimed := ∅, alternates := ∅ } })) b := by
  refine enter_bind_eq_serve fun b => ?_
  simp only [device_bind_apply, withDevice, device?, counted]
  cases b.devices[id.number]? <;> rfl

theorem closeDevice_eq_serve (h : HandleId) :
    closeDevice h = serve .closeDevice none
      (withHandle h fun _ => .ok ((), fun c => { c with handles := c.handles.erase h })) := by
  refine enter_bind_eq_serve fun b => ?_
  simp only [handle_bind_apply, withHandle, counted]
  cases b.handles.get? h <;> rfl

theorem setConfiguration_eq_serve (h : HandleId) (value : UInt8) :
    setConfiguration h value = serve .setConfiguration none fun b =>
      withHandle h (fun held => withDevice held.device (fun d =>
        if value ≠ 0 ∧ (d.spec.configurationByValue? value).isNone then .error notFound
        else .ok ((), fun c =>
          (c.modifyDevice held.device fun d => { d with activeConfiguration := value }).modifyHandle
            h fun held => { held with alternates := ∅ })) b) b := by
  refine enter_bind_eq_serve fun b => ?_
  simp only [handle_bind_apply, device_bind_apply, refuse_apply, withHandle, withDevice, device?,
    counted]
  cases b.handles.get? h with
  | none => rfl
  | some held =>
    cases hd : b.devices[held.device.number]? with
    | none => simp [hd]
    | some d =>
      simp only [hd]
      split <;> rfl

theorem configuration_eq_serve (h : HandleId) :
    configuration h = serve .getConfiguration none fun b =>
      withHandle h (fun held => withDevice held.device (fun d =>
        if d.spec.reportsConfiguration then unchanged d.activeConfiguration
        else .error (.notSupported "get_configuration")) b) b := by
  refine enter_bind_eq_serve fun b => ?_
  simp only [handle_bind_apply, device_bind_apply, withHandle, withDevice, device?, counted]
  cases b.handles.get? h with
  | none => rfl
  | some held =>
    cases hd : b.devices[held.device.number]? with
    | none => simp [hd]
    | some d =>
      simp only [hd]
      split <;> rfl

theorem claimInterface_eq_serve (h : HandleId) (number : UInt8) :
    claimInterface h number = serve .claimInterface none
      (withHandle h fun held =>
        if held.claimed.contains number then .error busy
        else .ok ((), fun c =>
          c.modifyHandle h fun held => { held with claimed := held.claimed.add number })) := by
  refine enter_bind_eq_serve fun b => ?_
  simp only [handle_bind_apply, refuse_apply, withHandle, counted]
  cases b.handles.get? h with
  | none => rfl
  | some held => simp only; split <;> rfl

theorem releaseInterface_eq_serve (h : HandleId) (number : UInt8) :
    releaseInterface h number = serve .releaseInterface none
      (withHandle h fun held =>
        if !held.claimed.contains number then .error notFound
        else .ok ((), fun c => c.modifyHandle h fun held => { held with
          claimed := held.claimed.erase number
          alternates := held.alternates.erase number })) := by
  refine enter_bind_eq_serve fun b => ?_
  simp only [handle_bind_apply, refuse_apply, withHandle, counted]
  cases b.handles.get? h with
  | none => rfl
  | some held => simp only; split <;> rfl

theorem setAlternate_eq_serve (h : HandleId) (number alternate : UInt8) :
    setAlternate h number alternate = serve .setInterfaceAltsetting none fun b =>
      withHandle h (fun held =>
        if !held.claimed.contains number then .error notFound
        else withDevice held.device (fun d =>
          if (d.alternate? number alternate).isNone then .error notFound
          else .ok ((), fun c => c.modifyHandle h fun held => { held with
            alternates := held.alternates.insert number alternate })) b) b := by
  refine enter_bind_eq_serve fun b => ?_
  simp only [handle_bind_apply, device_bind_apply, refuse_apply, withHandle, withDevice, device?,
    counted]
  cases b.handles.get? h with
  | none => rfl
  | some held =>
    simp only
    split
    · rfl
    · cases hd : b.devices[held.device.number]? with
      | none => rfl
      | some d => simp only; split <;> rfl

private theorem modify_bind_apply (f : Bus → Bus) (act : Action Bus α) (b : Bus) :
    (modify f >>= fun _ => act) b = act (f b) := rfl

theorem dataTransfer_eq_serve (m : Method) (kind : TransferType) (h : HandleId)
    (endpoint number : UInt8) (payload : Payload) (timeout : Nat) :
    dataTransfer m kind h endpoint number payload timeout = serve m (some timeout) fun b =>
      withHandle h (fun held =>
        if !held.claimed.contains number then .error notFound
        else withDevice held.device (fun d =>
          match d.endpoint? number ((held.alternates.get? number).getD 0) endpoint with
          | none => .error notFound
          | some e =>
            if e.transferType ≠ kind then .error invalidParam
            else if d.halted.contains endpoint then .error stalled
            else (moveData d endpoint payload).map fun r =>
              (r.1, fun c => c.modifyDevice held.device fun _ => r.2)) b) b := by
  refine enter_bind_eq_serve fun b => ?_
  simp only [modify_bind_apply, handle_bind_apply, device_bind_apply, refuse_apply, withHandle,
    withDevice, device?, counted]
  cases b.handles.get? h with
  | none => rfl
  | some held =>
    simp only
    split
    · rfl
    · cases hd : b.devices[held.device.number]? with
      | none => rfl
      | some d =>
        simp only
        cases d.endpoint? number ((held.alternates.get? number).getD 0) endpoint with
        | none => rfl
        | some e =>
          simp only [refuse_apply]
          split
          · rfl
          · split
            · rfl
            · cases moveData d endpoint payload <;> rfl

/-- A transfer fails and moves nothing, or it moves data on an endpoint that is there for it. -/
theorem dataTransfer_cases (m : Method) (kind : TransferType) (h : HandleId)
    (endpoint number : UInt8) (payload : Payload) (timeout : Nat) (b : Bus) :
    (∃ e, outcome (dataTransfer m kind h endpoint number payload timeout) b = .error e ∧
      (after (dataTransfer m kind h endpoint number payload timeout) b).core = b.core) ∨
    ∃ held d r, b.handles.get? h = some held ∧ b.device? held.device = some d ∧
      moveData d endpoint payload = .ok r ∧
      outcome (dataTransfer m kind h endpoint number payload timeout) b = .ok r.1 ∧
      after (dataTransfer m kind h endpoint number payload timeout) b =
        (b.counted m (some timeout)).modifyDevice held.device fun _ => r.2 := by
  rw [dataTransfer_eq_serve]
  rcases serve_cases m (some timeout) _ b with h | ⟨a, change, ha, ho, hs⟩
  · exact .inl h
  · obtain ⟨held, hh, ha⟩ := withHandle_eq_ok.1 ha
    split at ha
    · cases ha
    · obtain ⟨d, hd, ha⟩ := withDevice_eq_ok.1 ha
      cases he : d.endpoint? number ((held.alternates.get? number).getD 0) endpoint with
      | none => simp [he] at ha
      | some e =>
        simp only [he] at ha
        split at ha
        · cases ha
        · split at ha
          · cases ha
          · obtain ⟨r, hr, ha⟩ := map_eq_ok.1 ha
            cases ha
            exact .inr ⟨held, d, r, hh, hd, hr, ho, hs⟩

theorem controlTransfer_eq_serve (h : HandleId) (setup : Setup) (payload : Payload)
    (timeout : Nat) :
    controlTransfer h setup payload timeout = serve .ctrlTransfer (some timeout) fun b =>
      withHandle h (fun held => withDevice held.device (fun d =>
        match requestDirection setup.requestType, payload with
        | .toHost, .receive length =>
          (controlReply d held setup length).map fun data => (.read data, fun c => c)
        | .toDevice, .send data =>
          (controlStore d setup data).map fun d =>
            (.written data.length, fun c => c.modifyDevice held.device fun _ => d)
        | _, _ => .error invalidParam) b) b := by
  refine enter_bind_eq_serve fun b => ?_
  simp only [modify_bind_apply, handle_bind_apply, device_bind_apply, withHandle, withDevice,
    device?, counted]
  cases b.handles.get? h with
  | none => rfl
  | some held =>
    cases hd : b.devices[held.device.number]? with
    | none => simp [hd]
    | some d =>
      simp only [hd]
      cases requestDirection setup.requestType with
      | toHost =>
        cases payload with
        | send data => rfl
        | receive length => simp only; cases controlReply d held setup length <;> rfl
      | toDevice =>
        cases payload with
        | send data => simp only; cases controlStore d setup data <;> rfl
        | receive length => rfl

theorem resetDevice_eq_serve (h : HandleId) :
    resetDevice h = serve .resetDevice none
      (withHandle h fun held => .ok ((), fun c => c.modifyDevice held.device fun d => { d with
        pipes := ∅
        controlBuffer := []
        halted := ∅ })) := by
  refine enter_bind_eq_serve fun b => ?_
  simp only [handle_bind_apply, withHandle, counted]
  cases b.handles.get? h <;> rfl

theorem kernelDriverActive_eq_serve (h : HandleId) (number : UInt8) :
    kernelDriverActive h number = serve .isKernelDriverActive none fun b =>
      withHandle h (fun held => withDevice held.device (fun d =>
        unchanged (d.kernelDrivers.contains number)) b) b := by
  refine enter_bind_eq_serve fun b => ?_
  simp only [handle_bind_apply, device_bind_apply, withHandle, withDevice, device?, counted]
  cases b.handles.get? h with
  | none => rfl
  | some held => simp only; cases b.devices[held.device.number]? <;> rfl

theorem detachKernelDriver_eq_serve (h : HandleId) (number : UInt8) :
    detachKernelDriver h number = serve .detachKernelDriver none fun b =>
      withHandle h (fun held => withDevice held.device (fun d =>
        if !d.kernelDrivers.contains number then .error notFound
        else .ok ((), fun c => c.modifyDevice held.device fun d => { d with
          kernelDrivers := d.kernelDrivers.erase number })) b) b := by
  refine enter_bind_eq_serve fun b => ?_
  simp only [handle_bind_apply, device_bind_apply, refuse_apply, withHandle, withDevice, device?,
    counted]
  cases b.handles.get? h with
  | none => rfl
  | some held =>
    cases hd : b.devices[held.device.number]? with
    | none => simp [hd]
    | some d => simp only [hd]; split <;> rfl

theorem attachKernelDriver_eq_serve (h : HandleId) (number : UInt8) :
    attachKernelDriver h number = serve .attachKernelDriver none fun b =>
      withHandle h (fun held => withDevice held.device (fun d =>
        if d.kernelDrivers.contains number then .error busy
        else .ok ((), fun c => c.modifyDevice held.device fun d => { d with
          kernelDrivers := d.kernelDrivers.add number })) b) b := by
  refine enter_bind_eq_serve fun b => ?_
  simp only [handle_bind_apply, device_bind_apply, refuse_apply, withHandle, withDevice, device?,
    counted]
  cases b.handles.get? h with
  | none => rfl
  | some held =>
    cases hd : b.devices[held.device.number]? with
    | none => simp [hd]
    | some d => simp only [hd]; split <;> rfl

theorem clearHalt_eq_serve (h : HandleId) (endpoint : UInt8) :
    clearHalt h endpoint = serve .clearHalt none
      (withHandle h fun held => .ok ((), fun c => c.modifyDevice held.device fun d => { d with
        halted := d.halted.erase endpoint })) := by
  refine enter_bind_eq_serve fun b => ?_
  simp only [handle_bind_apply, withHandle, counted]
  cases b.handles.get? h <;> rfl

/-! The operations that only read. -/

private theorem core_serve {m : Method} {answer : Bus → Answer α} {b : Bus}
    (h : ∀ a change, answer b = .ok (a, change) → change = fun c => c) :
    (after (serve m none answer) b).core = b.core := by
  refine after_serve (fun _ hc => hc) fun a change ha => ?_
  rw [h a change ha, core_counted]

private theorem change_of_bind_unchanged {β : Type} {x : Except UsbError β} {f : β → α} {a : α}
    {change : Bus → Bus} (h : (x.bind fun r => unchanged (f r)) = .ok (a, change)) :
    change = fun c => c := by
  cases x with
  | error e => cases h
  | ok r => cases h; rfl

@[simp] theorem core_enumerate (b : Bus) : (after enumerate b).core = b.core := by
  rw [enumerate_eq_serve]
  exact core_serve fun a change h => by cases h; rfl

@[simp] theorem core_deviceDescriptor (id : DeviceId) (b : Bus) :
    (after (deviceDescriptor id) b).core = b.core := by
  rw [deviceDescriptor_eq_serve]
  refine core_serve fun a change h => ?_
  obtain ⟨d, -, h⟩ := withDevice_eq_ok.1 h
  cases h
  rfl

@[simp] theorem core_configurationDescriptor (id : DeviceId) (config : UInt8) (b : Bus) :
    (after (configurationDescriptor id config) b).core = b.core := by
  rw [configurationDescriptor_eq_serve]
  refine core_serve fun a change h => ?_
  obtain ⟨d, -, h⟩ := withDevice_eq_ok.1 h
  exact change_of_bind_unchanged h

@[simp] theorem core_interfaceDescriptor (id : DeviceId) (interface alternate config : UInt8)
    (b : Bus) : (after (interfaceDescriptor id interface alternate config) b).core = b.core := by
  rw [interfaceDescriptor_eq_serve]
  refine core_serve fun a change h => ?_
  obtain ⟨d, -, h⟩ := withDevice_eq_ok.1 h
  exact change_of_bind_unchanged h

@[simp] theorem core_endpointDescriptor (id : DeviceId) (endpoint interface alternate config : UInt8)
    (b : Bus) :
    (after (endpointDescriptor id endpoint interface alternate config) b).core = b.core := by
  rw [endpointDescriptor_eq_serve]
  refine core_serve fun a change h => ?_
  obtain ⟨d, -, h⟩ := withDevice_eq_ok.1 h
  exact change_of_bind_unchanged (f := fun e => e) h

@[simp] theorem core_configuration (h : HandleId) (b : Bus) :
    (after (configuration h) b).core = b.core := by
  rw [configuration_eq_serve]
  refine core_serve fun a change ha => ?_
  obtain ⟨held, -, ha⟩ := withHandle_eq_ok.1 ha
  obtain ⟨d, -, ha⟩ := withDevice_eq_ok.1 ha
  split at ha <;> cases ha
  rfl

@[simp] theorem core_kernelDriverActive (h : HandleId) (number : UInt8) (b : Bus) :
    (after (kernelDriverActive h number) b).core = b.core := by
  rw [kernelDriverActive_eq_serve]
  refine core_serve fun a change ha => ?_
  obtain ⟨held, -, ha⟩ := withHandle_eq_ok.1 ha
  obtain ⟨d, -, ha⟩ := withDevice_eq_ok.1 ha
  cases ha
  rfl

/-! What a change of one device does to the devices. -/

theorem device?_modifyDevice (b : Bus) (i id : DeviceId) (f : DeviceState → DeviceState) :
    (b.modifyDevice i f).device? id = if i = id then (b.device? id).map f else b.device? id := by
  have hi : i = id ↔ i.number = id.number := by cases i; cases id; simp
  simp only [device?, modifyDevice, List.getElem?_modify, hi]
  split <;> simp

theorem device?_modifyDevice_of_some {b : Bus} {i id : DeviceId} {d : DeviceState}
    (f : DeviceState → DeviceState) (hd : b.device? id = some d) (hi : i = id) :
    (b.modifyDevice i f).device? id = some (f d) := by
  rw [device?_modifyDevice, if_pos hi, hd]
  rfl

end SerialBus.Loopback.Bus
