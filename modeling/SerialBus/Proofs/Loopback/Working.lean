import SerialBus.Proofs.Loopback.Operations

/-! The operations of a loopback bus that change it, where nothing is made to fail and the handle
is open. -/
namespace SerialBus.Loopback.Bus

open SerialBus.Action

section

variable {b : Bus} {id : DeviceId} {d : DeviceState} (hf : b.failures = ∅)

include hf

theorem openDevice_works (hd : b.device? id = some d) :
    outcome (Backend.openDevice id : Action Bus HandleId) b = .ok ⟨b.nextHandle⟩ ∧
      after (Backend.openDevice id : Action Bus HandleId) b = { b.counted .openDevice none with
        nextHandle := b.nextHandle + 1
        handles := b.handles.insert ⟨b.nextHandle⟩
          { device := id, claimed := ∅, alternates := ∅ } } := by
  change outcome (openDevice id) b = _ ∧ after (openDevice id) b = _
  rw [openDevice_eq_serve]
  obtain ⟨ho, ha⟩ := serve_of_working .openDevice none _ hf
  rw [ho, ha, withDevice, hd]
  exact ⟨rfl, rfl⟩

variable {h : HandleId} {r : Handle} (hh : b.handles.get? h = some r)

include hh

theorem closeDevice_works :
    outcome (Backend.closeDevice h : Action Bus Unit) b = .ok () ∧
      after (Backend.closeDevice h : Action Bus Unit) b =
        { b.counted .closeDevice none with handles := b.handles.erase h } := by
  change outcome (closeDevice h) b = _ ∧ after (closeDevice h) b = _
  rw [closeDevice_eq_serve]
  obtain ⟨ho, ha⟩ := serve_of_working .closeDevice none _ hf
  rw [ho, ha, withHandle, hh]
  exact ⟨rfl, rfl⟩

theorem claimInterface_works {number : UInt8} (hn : r.claimed.contains number = false) :
    outcome (Backend.claimInterface h number : Action Bus Unit) b = .ok () ∧
      after (Backend.claimInterface h number : Action Bus Unit) b =
        (b.counted .claimInterface none).modifyHandle h
          fun r => { r with claimed := r.claimed.add number } := by
  change outcome (claimInterface h number) b = _ ∧ after (claimInterface h number) b = _
  rw [claimInterface_eq_serve]
  obtain ⟨ho, ha⟩ := serve_of_working .claimInterface none _ hf
  rw [ho, ha]
  simp only [withHandle, hh, hn]
  exact ⟨rfl, rfl⟩

theorem releaseInterface_works {number : UInt8} (hn : r.claimed.contains number = true) :
    outcome (Backend.releaseInterface h number : Action Bus Unit) b = .ok () ∧
      after (Backend.releaseInterface h number : Action Bus Unit) b =
        (b.counted .releaseInterface none).modifyHandle h fun r => { r with
          claimed := r.claimed.erase number
          alternates := r.alternates.erase number } := by
  change outcome (releaseInterface h number) b = _ ∧ after (releaseInterface h number) b = _
  rw [releaseInterface_eq_serve]
  obtain ⟨ho, ha⟩ := serve_of_working .releaseInterface none _ hf
  rw [ho, ha]
  simp only [withHandle, hh, hn]
  exact ⟨rfl, rfl⟩

theorem resetDevice_works :
    outcome (Backend.resetDevice h : Action Bus Unit) b = .ok () ∧
      after (Backend.resetDevice h : Action Bus Unit) b =
        (b.counted .resetDevice none).modifyDevice r.device fun d => { d with
          pipes := ∅
          controlBuffer := []
          halted := ∅ } := by
  change outcome (resetDevice h) b = _ ∧ after (resetDevice h) b = _
  rw [resetDevice_eq_serve]
  obtain ⟨ho, ha⟩ := serve_of_working .resetDevice none _ hf
  rw [ho, ha, withHandle, hh]
  exact ⟨rfl, rfl⟩

theorem clearHalt_works (endpoint : UInt8) :
    outcome (Backend.clearHalt h endpoint : Action Bus Unit) b = .ok () ∧
      after (Backend.clearHalt h endpoint : Action Bus Unit) b =
        (b.counted .clearHalt none).modifyDevice r.device fun d => { d with
          halted := d.halted.erase endpoint } := by
  change outcome (clearHalt h endpoint) b = _ ∧ after (clearHalt h endpoint) b = _
  rw [clearHalt_eq_serve]
  obtain ⟨ho, ha⟩ := serve_of_working .clearHalt none _ hf
  rw [ho, ha, withHandle, hh]
  exact ⟨rfl, rfl⟩

variable (hd : b.device? r.device = some d)

include hd

/-- Values that no configuration has are refused. -/
theorem setConfiguration_works {value : UInt8}
    (hv : ¬ (value ≠ 0 ∧ (d.spec.configurationByValue? value).isNone)) :
    outcome (Backend.setConfiguration h value : Action Bus Unit) b = .ok () ∧
      after (Backend.setConfiguration h value : Action Bus Unit) b =
        ((b.counted .setConfiguration none).modifyDevice r.device fun d => { d with
          activeConfiguration := value }).modifyHandle h fun r => { r with alternates := ∅ } := by
  change outcome (setConfiguration h value) b = _ ∧ after (setConfiguration h value) b = _
  rw [setConfiguration_eq_serve]
  obtain ⟨ho, ha⟩ := serve_of_working .setConfiguration none _ hf
  rw [ho, ha]
  simp only [withHandle, hh, withDevice, hd, if_neg hv, and_true]
  rfl

theorem configuration_works :
    outcome (Backend.configuration h : Action Bus UInt8) b =
        (if d.spec.reportsConfiguration then .ok d.activeConfiguration
        else .error (.notSupported "get_configuration")) ∧
      (after (Backend.configuration h : Action Bus UInt8) b).core = b.core := by
  refine ⟨?_, core_configuration h b⟩
  change outcome (configuration h) b = _
  rw [configuration_eq_serve, (serve_of_working .getConfiguration none _ hf).1]
  simp only [withHandle, hh, withDevice, hd]
  cases d.spec.reportsConfiguration <;> rfl

theorem setAlternate_works {number alternate : UInt8} (hn : r.claimed.contains number = true)
    (hsome : (d.alternate? number alternate).isSome) :
    outcome (Backend.setAlternate h number alternate : Action Bus Unit) b = .ok () ∧
      after (Backend.setAlternate h number alternate : Action Bus Unit) b =
        (b.counted .setInterfaceAltsetting none).modifyHandle h fun r => { r with
          alternates := r.alternates.insert number alternate } := by
  change outcome (setAlternate h number alternate) b = _ ∧ after (setAlternate h number alternate) b = _
  rw [setAlternate_eq_serve]
  obtain ⟨ho, ha⟩ := serve_of_working .setInterfaceAltsetting none _ hf
  rw [ho, ha]
  have hnone : (d.alternate? number alternate).isNone = false := by
    rw [← Option.not_isSome, hsome]
    rfl
  simp only [withHandle, hh, hn, withDevice, hd, hnone]
  exact ⟨rfl, rfl⟩

/-- A control request that the device takes with its data. -/
theorem controlTransfer_works {setup : Setup} {data : List UInt8} (timeout : Nat) {e : DeviceState}
    (hdirection : requestDirection setup.requestType = .toDevice)
    (hstore : controlStore d setup data = .ok e) :
    outcome (Backend.controlTransfer h setup (.send data) timeout : Action Bus Transferred) b =
        .ok (.written data.length) ∧
      after (Backend.controlTransfer h setup (.send data) timeout : Action Bus Transferred) b =
        (b.counted .ctrlTransfer (some timeout)).modifyDevice r.device fun _ => e := by
  change outcome (controlTransfer h setup (.send data) timeout) b = _ ∧
    after (controlTransfer h setup (.send data) timeout) b = _
  rw [controlTransfer_eq_serve]
  obtain ⟨ho, ha⟩ := serve_of_working .ctrlTransfer (some timeout) _ hf
  rw [ho, ha]
  simp only [withHandle, hh, withDevice, hd, hdirection, hstore, Except.map, and_self]

/-- A control request for data returns what the device replies. -/
theorem controlTransfer_reads {setup : Setup} (length timeout : Nat)
    (hdirection : requestDirection setup.requestType = .toHost) :
    outcome (Backend.controlTransfer h setup (.receive length) timeout : Action Bus Transferred) b =
      (controlReply d r setup length).map .read := by
  change outcome (controlTransfer h setup (.receive length) timeout) b = _
  rw [controlTransfer_eq_serve, (serve_of_working .ctrlTransfer (some timeout) _ hf).1]
  simp only [withHandle, hh, withDevice, hd, hdirection]
  cases controlReply d r setup length <;> rfl

/-- A transfer on an endpoint of its type, on an interface that is claimed. -/
theorem dataTransfer_works (m : Method) {kind : TransferType} {endpoint number : UInt8}
    (payload : Payload) (timeout : Nat) (hn : r.claimed.contains number = true)
    {e : EndpointDescriptor}
    (he : d.endpoint? number ((r.alternates.get? number).getD 0) endpoint = some e)
    (hkind : e.transferType = kind) :
    let result : Except UsbError (Transferred × DeviceState) :=
      if d.halted.contains endpoint then .error stalled else moveData d endpoint payload
    outcome (dataTransfer m kind h endpoint number payload timeout) b = result.map Prod.fst ∧
      after (dataTransfer m kind h endpoint number payload timeout) b =
        match result with
        | .ok t => (b.counted m (some timeout)).modifyDevice r.device fun _ => t.2
        | .error _ => b.counted m (some timeout) := by
  intro result
  rw [dataTransfer_eq_serve]
  obtain ⟨ho, ha⟩ := serve_of_working m (some timeout) _ hf
  rw [ho, ha]
  simp only [withHandle, hh, hn, withDevice, hd, he, hkind, result]
  cases d.halted.contains endpoint with
  | true => simp [Except.map]
  | false => cases moveData d endpoint payload <;> simp [Except.map]

end

end SerialBus.Loopback.Bus
