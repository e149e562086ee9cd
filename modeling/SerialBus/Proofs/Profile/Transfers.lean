import SerialBus.Proofs.Loopback.Changes
import SerialBus.Proofs.Profile.Found

/-! Transfers of a represented device. They take place on the endpoint that the profile has, and
move the bytes that it says. -/
namespace SerialBus.Loopback.Profile

open SerialBus.Action SerialBus.Device

variable {id : DeviceId} {p : Profile}

/-- A change of the device on the bus that leaves its descriptors and its configuration. -/
theorem Represents.withState {d : SerialBus.Device} {b c : Bus} (ha : Represents id p ⟨d, b⟩)
    {s : DeviceState} (hspec : s.spec = p.state.spec)
    (hconfiguration : s.activeConfiguration = p.state.activeConfiguration)
    (hf : c.failures = b.failures) (hh : c.handles = b.handles) (hs : c.device? id = some s) :
    Represents id { p with state := s } ⟨d, c⟩ := by
  have hactive : s.active? = p.state.active? := by
    rw [DeviceState.active?, hspec, hconfiguration, DeviceState.active?]
  refine ⟨ha.device, ?_, hf.trans ha.failures, hs, ha.closed, fun h he => ?_, ha.alternates,
    ha.selected, fun i hi => ?_, fun key kind hk => ?_⟩
  · rw [hspec]
    exact ha.descriptor
  · rw [Open, hh]
    exact ha.opened h he
  · rw [hspec, hactive]
    exact ha.active i hi
  · rw [DeviceState.endpoint?, DeviceState.alternate?, hactive]
    exact ha.endpointTypes key kind hk

/-- The device is represented, with this handle open and the interface claimed. -/
def Claimed (id : DeviceId) (p : Profile) (number : UInt8) (a : Attachment Bus) : Prop :=
  Represents id p a ∧ a.device.held.handle.isSome ∧ a.device.held.claimed.contains number = true

/-- Once the bus has the interface claimed, the device may count the claim. -/
theorem Open.claimed {b : Bus} {held : Holdings} {h : HandleId} {r : Handle} {number : UInt8}
    {level : Nat} (hr : b.handles.get? h = some r) (hdevice : r.device = id)
    (halternates : r.alternates = held.alternates) (hnumber : r.claimed.contains number = true)
    (hclaimed : ∀ n, number ≠ n → r.claimed.contains n = held.claimed.contains n) :
    Open id b { held with claimed := held.claimed.insert number level } h := by
  refine ⟨r, hr, hdevice, halternates, fun n => ?_⟩
  by_cases hn : number = n
  · subst hn
    rw [hnumber, Table.contains_insert_self]
  · rw [hclaimed n hn, Table.contains_insert_of_ne hn]

/-- A claim on the bus if there is none yet. -/
theorem claimOnce_works {a : Attachment Bus} {h : HandleId} (ha : Ready id p h a) (number : UInt8)
    (level : Nat) : outcome (claimOnce h number) a = .ok () ∧
      let b := (after (claimOnce h number) a).bus
      after (claimOnce h number) a = ⟨a.device, b⟩ ∧ b.failures = ∅ ∧ b.device? id = some p.state ∧
        Open id b { a.device.held with
          claimed := a.device.held.claimed.insert number level } h := by
  obtain ⟨ha, hh⟩ := ha
  obtain ⟨r, hr, hdevice, -, halternates, hclaimed⟩ := ha.entry hh
  cases hc : a.device.held.claimed.contains number with
  | true =>
    obtain ⟨ho, hs⟩ := eq_ok_iff.1 (claimOnce_of_claimed (h := h) hc)
    rw [ho, hs]
    exact ⟨rfl, rfl, ha.failures, ha.state,
      .claimed hr hdevice halternates ((hclaimed number).trans hc) fun n _ => hclaimed n⟩
  | false =>
    obtain ⟨ho, hs⟩ := Bus.claimInterface_works ha.failures hr ((hclaimed number).trans hc)
    have heq := claimOnce_of_unclaimed (h := h) hc
    rw [outcome_congr heq, after_congr heq, outcome_onBus, after_onBus, ho, hs]
    refine ⟨rfl, rfl, ha.failures, ha.state, ?_⟩
    refine .claimed (Table.get?_modify_self.trans (congrArg _ hr)) hdevice halternates
      Table.contains_insert_self fun n hn => ?_
    exact (Table.contains_insert_of_ne hn).trans (hclaimed n)

theorem gives_acquire (number : UInt8) (level : Nat → Nat) : Gives (Represents id p)
    (acquire number level) (.ok ()) (Claimed id p number) := by
  rw [acquire_eq]
  refine succeeds_openHandle.bind fun h a ha => ?_
  obtain ⟨ho, hs, hf, hd, hopen⟩ := claimOnce_works ha number
    (level ((a.device.held.claimed.get? number).getD 0))
  obtain ⟨ha, hh⟩ := ha
  rw [outcome_bind_ok _ ho, after_bind_ok _ ho, hs]
  refine ⟨rfl, ⟨ha.device, ha.descriptor, hf, hd, fun hn => ?_, fun i hi => ?_, ha.alternates,
    ha.selected, ha.active, ha.endpointTypes⟩, ?_, Table.contains_insert_self⟩
  · exact absurd (hh.symm.trans hn) nofun
  · cases hh.symm.trans hi
    exact hopen
  · exact Option.isSome_of_eq_some hh

/-- The interface is claimed for a transfer on an endpoint that it has. -/
structure Prepared (id : DeviceId) (p : Profile) (address : UInt8) (e : EndpointDescriptor)
    (r : TransferType × HandleId × UInt8 × Nat) (a : Attachment Bus) : Prop where
  represents : Represents id p a
  kind : r.1 = e.transferType
  handle : a.device.held.handle = some r.2.1
  claimed : a.device.held.claimed.contains r.2.2.1 = true
  endpoint : p.state.endpoint? r.2.2.1 ((p.alternates.get? r.2.2.1).getD 0) address = some e

/-- With the interface claimed on the handle, all is prepared. -/
theorem succeeds_claimForTransfer {l : InterfaceLocation} {al : Alternate} (hl : Current p l al)
    {address : UInt8} {e : EndpointDescriptor}
    (he : al.endpoints.find? (fun e => e.endpointAddress == address) = some e)
    (timeout : Option Nat) :
    Succeeds (Represents id p) (do
      ensureClaimed (.resolved l)
      let h ← openHandle
      let ms ← timeoutOr timeout
      return (e.transferType, h, l.descriptor.interfaceNumber, ms)) (Prepared id p address e) := by
  rw [ensureClaimed_resolved]
  intro a ha
  obtain ⟨ho, ha, hopen, hclaimed⟩ := gives_acquire l.descriptor.interfaceNumber (max · 1) a ha
  rw [outcome_bind_ok _ ho, after_bind_ok _ ho]
  generalize after (acquire l.descriptor.interfaceNumber (max · 1)) a = b at ha hopen hclaimed ⊢
  obtain ⟨h, hh⟩ := Option.isSome_iff_exists.1 hopen
  obtain ⟨ho, hs⟩ := eq_ok_iff.1 (openHandle_of_some hh)
  rw [outcome_bind_ok _ ho, after_bind_ok _ ho, hs]
  refine ⟨_, rfl, ha, rfl, hh, hclaimed, ?_⟩
  have hselected := hl.selected
  rw [← hl.located.descriptor] at hselected
  dsimp only
  rw [hselected, hl.endpoint?]
  exact he

/-- The profile after data was moved, or after that failed. -/
def moved (p : Profile) : Except UsbError (Transferred × DeviceState) → Profile
  | .ok t => { p with state := t.2 }
  | .error _ => p

/-- The transfers that are not control transfers are one operation of the bus. -/
theorem dataTransfer_eq_onBus {kind : TransferType} (hkind : kind ≠ .control) (h : HandleId)
    (address number : UInt8) (payload : Payload) (ms : Nat) :
    ∃ m, (SerialBus.Device.dataTransfer kind h address number payload ms : DeviceAction Bus _) =
      onBus (Bus.dataTransfer m kind h address number payload ms) := by
  cases kind with
  | control => exact absurd rfl hkind
  | isochronous => exact ⟨_, rfl⟩
  | bulk => exact ⟨_, rfl⟩
  | interrupt => exact ⟨_, rfl⟩

theorem gives_dataTransfer {address : UInt8} {e : EndpointDescriptor}
    {r : TransferType × HandleId × UInt8 × Nat} (payload : Payload) :
    let result := (p.ready address e).bind fun _ => Bus.moveData p.state address payload
    Gives (Prepared id p address e r)
      (SerialBus.Device.dataTransfer r.1 r.2.1 address r.2.2.1 payload r.2.2.2)
      (result.map Prod.fst) (Represents id (p.moved result)) := by
  intro result a ha
  obtain ⟨kind, h, number, ms⟩ := r
  obtain ⟨ha, rfl, hh, hclaimed, he⟩ := ha
  by_cases hkind : e.transferType = .control
  · have hready : p.ready address e = .error _ := if_pos hkind
    simp only [result, hready, hkind]
    exact ⟨rfl, ha⟩
  · obtain ⟨m, heq⟩ := dataTransfer_eq_onBus hkind h address number payload ms
    obtain ⟨held, hr, hdevice, hstate, halternates, hcontains⟩ := ha.entry hh
    rw [← ha.alternates, ← halternates] at he
    have hresult : result =
        if p.state.halted.contains address then .error stalled
        else Bus.moveData p.state address payload := by
      simp only [result, ready, if_neg hkind]
      cases p.state.halted.contains address <;> rfl
    obtain ⟨ho, hs⟩ := Bus.dataTransfer_works ha.failures hr hstate m payload ms
      ((hcontains number).trans hclaimed) he rfl
    rw [← hresult] at ho hs
    rw [heq, outcome_onBus, after_onBus, ho, hs]
    refine ⟨rfl, ?_⟩
    cases hr : result with
    | error e => exact ha.atCore (Bus.core_counted _ _ _)
    | ok t =>
      have hmoved : Bus.moveData p.state address payload = .ok t := by
        rw [hresult] at hr
        split at hr
        · cases hr
        · exact hr
      obtain ⟨pipes, hkept⟩ := Bus.pipes_of_moveData hmoved
      exact ha.withState (by rw [hkept]) (by rw [hkept]) rfl rfl
        (Bus.device?_modifyDevice_of_some _ ha.state hdevice)

/-! Control requests that halt endpoints, and the end of a halt. -/

theorem gives_controlTransfer {setup : Setup} {s : DeviceState}
    (hdirection : requestDirection setup.requestType = .toDevice)
    (hstore : Bus.controlStore p.state setup [] = .ok s) (hspec : s.spec = p.state.spec)
    (hactive : s.activeConfiguration = p.state.activeConfiguration) (timeout : Option Nat) :
    Gives (Represents id p) (SerialBus.Device.controlTransfer setup .none timeout)
      (.ok (.written 0)) (Represents id { p with state := s }) := by
  rw [SerialBus.Device.controlTransfer, hdirection]
  refine (gives_liftResult _).bind (succeeds_openHandle.bind ?_)
  rintro h a ⟨ha, hh⟩
  obtain ⟨r, hr, hdevice, hstate, -⟩ := ha.entry hh
  obtain ⟨ho, hs⟩ := Bus.controlTransfer_works ha.failures hr hstate
    (timeout.getD a.device.defaultTimeout) hdirection hstore
  change outcome (onBus _) a = _ ∧ Represents id _ (after (onBus _) a)
  rw [outcome_onBus, after_onBus]
  refine ⟨ho, ?_⟩
  rw [hs]
  exact ha.withState hspec hactive rfl rfl
    (Bus.device?_modifyDevice_of_some _ ha.state hdevice)

theorem gives_setHalt (address : UInt8) : Gives (Represents id p)
    (setFeature endpointHalt (.endpoint address)) (.ok ())
      (Represents id (p.withHalted (p.state.halted.add address))) := by
  have hlow : address.toUInt16.toUInt8 = address := UInt8.toUInt8_toUInt16 address
  have hstore : Bus.controlStore p.state
      ⟨requestType .toDevice .standard .endpoint, 0x03, endpointHalt, address.toUInt16⟩ [] =
        .ok { p.state with halted := p.state.halted.add address } := by
    simp only [Bus.controlStore, requestKind_requestType, requestRecipient_requestType, hlow]
    rfl
  have hsend : Gives (Represents id p) _ _ _ :=
    gives_controlTransfer (requestDirection_requestType _ _ _) hstore rfl rfl none
  exact hsend.bind (gives_pure _)

theorem gives_clearHalt (address : UInt8) : Gives (Represents id p)
    (SerialBus.Device.clearHalt address) (.ok ())
      (Represents id (p.withHalted (p.state.halted.erase address))) := by
  apply succeeds_openHandle.bind
  rintro h a ⟨ha, hh⟩
  obtain ⟨r, hr, hdevice, -⟩ := ha.entry hh
  obtain ⟨ho, hs⟩ := Bus.clearHalt_works ha.failures hr address
  rw [outcome_onBus, after_onBus]
  refine ⟨ho, ?_⟩
  rw [hs]
  exact ha.withState rfl rfl rfl rfl (Bus.device?_modifyDevice_of_some _ ha.state hdevice)

section

variable (hregular : p.state.spec.Regular) (hfits : p.state.spec.Fits)

include hregular hfits

theorem answers_prepare (address : UInt8) (interface : Option UInt8) (timeout : Option Nat) :
    Answers (Represents id p) (prepare address (.ofNumber? interface) timeout)
      (p.declared interface address) (Prepared id p address) (Represents id p) := by
  unfold prepare declared
  refine (answers_findInterface hregular hfits interface).bind fun al l _ =>
    answers_from (Q := Represents id p) ?_
  rintro a ⟨ha, hl⟩
  refine ⟨ha, ?_⟩
  refine (answers_endpointType hregular hfits hl address).bindSucceeds fun e kind he => ?_
  rintro b ⟨rfl, hb⟩
  have hfound : al.endpoints.find? (fun e => e.endpointAddress == address) = some e := by
    cases hfind : al.endpoints.find? fun e => e.endpointAddress == address with
    | none =>
      rw [hfind] at he
      cases he
    | some e' =>
      rw [hfind] at he
      cases he
      rfl
  exact succeeds_claimForTransfer hl hfound timeout b hb

theorem gives_transfer (address : UInt8) (payload : Payload) (interface : Option UInt8)
    (timeout : Option Nat) :
    let result := (p.endpoint interface address).bind fun _ =>
      Bus.moveData p.state address payload
    Gives (Represents id p) (transfer address payload (.ofNumber? interface) timeout)
      (result.map Prod.fst) (Represents id (p.moved result)) := by
  have hprepare : Answers (Represents id p) _ _ _ _ :=
    answers_prepare hregular hfits address interface timeout
  rw [transfer_eq, endpoint]
  cases hdeclared : p.declared interface address with
  | error e =>
    rw [hdeclared] at hprepare
    exact Gives.bind_error hprepare
  | ok e =>
    rw [hdeclared] at hprepare
    exact Succeeds.bind hprepare fun r => gives_dataTransfer payload

theorem gives_write (address : UInt8) (data : List UInt8) (interface : Option UInt8)
    (timeout : Option Nat) :
    Gives (Represents id p) (SerialBus.Device.write address data interface timeout)
      (p.write address data interface).1 (Represents id (p.write address data interface).2) := by
  have htransfer : Gives (Represents id p) _ _ _ :=
    gives_transfer hregular hfits address (.send data) interface timeout
  rw [SerialBus.Device.write, write]
  cases hendpoint : p.endpoint interface address with
  | error e =>
    rw [hendpoint] at htransfer
    exact htransfer.bind_error
  | ok u =>
    rw [hendpoint] at htransfer
    simp only [Except.bind, Bus.moveData] at htransfer
    by_cases hdirection : endpointDirection address = .toDevice
    · simp only [if_pos hdirection] at htransfer ⊢
      exact htransfer.bind (gives_pure _)
    · simp only [if_neg hdirection] at htransfer ⊢
      exact htransfer.bind_error

theorem gives_read (address : UInt8) (length : Nat) (interface : Option UInt8)
    (timeout : Option Nat) :
    Gives (Represents id p) (receive address length interface timeout)
      (p.read address length interface).1 (Represents id (p.read address length interface).2) := by
  have htransfer : Gives (Represents id p) _ _ _ :=
    gives_transfer hregular hfits address (.receive length) interface timeout
  rw [receive, read]
  cases hendpoint : p.endpoint interface address with
  | error e =>
    rw [hendpoint] at htransfer
    exact htransfer.bind_error
  | ok u =>
    rw [hendpoint] at htransfer
    simp only [Except.bind, Bus.moveData] at htransfer
    by_cases hdirection : endpointDirection address = .toHost
    · simp only [if_pos hdirection] at htransfer ⊢
      split at htransfer
      next hempty =>
        rw [if_pos hempty]
        exact htransfer.bind_error
      next hsome =>
        rw [if_neg hsome]
        exact htransfer.bind (gives_pure _)
    · simp only [if_neg hdirection] at htransfer ⊢
      exact htransfer.bind_error

end

end SerialBus.Loopback.Profile
