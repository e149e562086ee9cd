import Mathlib.Data.List.DropRight
import SerialBus.Proofs.Device.Memory
import SerialBus.Proofs.Session.Sharing

/-! What a loopback device remembers of vendor requests, in sessions of any number of devices where
nothing is made to fail. It is what the last of them has sent since the last reset. -/
namespace SerialBus.Session

open SerialBus.Action Custody
open Loopback (Bus)

/-- Steps that use the bus through devices and make nothing fail. -/
def Step.isSmooth : Step → Bool
  | .hook (.failOn ..) => false
  | step => step.usesDevices

namespace DeviceCall

variable {a : Attachment Bus}

/-- The data that a call has sent in a vendor request. -/
def sent? : DeviceCall → Attachment Bus → Option (List UInt8)
  | .control setup data timeout, a =>
    match setup.stores, data.payload .toDevice,
        outcome (Device.controlTransfer setup data timeout) a with
    | true, .ok (.send payload), .ok _ => some payload
    | _, _, _ => none
  | _, _ => none

/-- Whether a call has reset the device. -/
def resets : DeviceCall → Attachment Bus → Bool
  | .reset, a => (outcome Device.reset a).isOk
  | _, _ => false

/-- What a call makes of what its device remembers. -/
def remembered (call : DeviceCall) (a : Attachment Bus) (before : List UInt8) : List UInt8 :=
  if call.resets a then [] else (call.sent? a).getD before

/-- What the device remembers changes as the call says, and no other device is concerned. -/
def Records (call : DeviceCall) (a : Attachment Bus) : Prop :=
  ∀ id, (after call.perform a).bus.memory? id =
    if a.device.id = id then (a.bus.memory? id).map (call.remembered a) else a.bus.memory? id

/-- What is not a reset and sends nothing leaves what is remembered. -/
theorem remembered_of_quiet {call : DeviceCall} (hr : call.resets a = false)
    (hs : call.sent? a = none) : call.remembered a = fun before => before := by
  funext before
  rw [remembered, hr, hs]
  rfl

/-- A call that changes nothing that is remembered, and is not to change anything. -/
theorem records_of_same {call : DeviceCall} (hr : call.resets a = false)
    (hs : call.sent? a = none)
    (hm : ∀ id, (after call.perform a).bus.memory? id = a.bus.memory? id) : call.Records a := by
  intro id
  rw [remembered_of_quiet hr hs, Option.map_id_fun', hm, id_eq, ite_self]

/-- Nothing but resets and vendor requests with data changes what is remembered. -/
theorem records_of_other {call : DeviceCall} (hreset : call ≠ .reset)
    (hcontrol : ∀ setup data timeout, call = .control setup data timeout → setup.stores = false)
    (hr : call.resets a = false) (hs : call.sent? a = none) : call.Records a := by
  have hm := Device.remembering_use (.call call) (fun h => hreset (Use.call.inj h))
    (fun setup data timeout h => hcontrol setup data timeout (Use.call.inj h)) a
  rw [Use.after_call] at hm
  exact records_of_same hr hs hm

section

variable (hf : a.bus.failures = ∅) (hall : Allocated a.bus) (hown : Owned a.device a.bus)
  (hpresent : (a.bus.device? a.device.id).isSome)

include hf hall hown hpresent

theorem records_reset : DeviceCall.reset.Records a := by
  intro id
  obtain ⟨hworks, hforgets⟩ := Device.reset_forgets hf hall hown hpresent
  have hresets : DeviceCall.reset.resets a = true := congrArg Except.isOk hworks
  have hremembered : DeviceCall.reset.remembered a = fun _ => [] := by
    funext before
    exact if_pos hresets
  rw [perform, unitReply, after_bind_pure, hforgets id, hremembered]

omit hall

theorem records_control (setup : Setup) (data : ControlData) (timeout : Option Nat) :
    (DeviceCall.control setup data timeout).Records a := by
  have hr : (DeviceCall.control setup data timeout).resets a = false := rfl
  cases hstores : setup.stores with
  | false =>
    have hs : (DeviceCall.control setup data timeout).sent? a = none := by simp [sent?, hstores]
    refine records_of_other (by simp) (fun _ _ _ heq => ?_) hr hs
    cases heq
    exact hstores
  | true =>
    have hafter : after (DeviceCall.control setup data timeout).perform a =
        after (Device.controlTransfer setup data timeout) a := after_bind_pure _ _ a
    rcases data.payload_toDevice with ⟨asked, rfl⟩ | ⟨payload, hpayload⟩
    · have hs : (DeviceCall.control setup (.length asked) timeout).sent? a = none := by
        simp [sent?, ControlData.payload]
      have hdirection : requestDirection setup.requestType = .toDevice :=
        (Setup.stores_eq_true.1 hstores).2
      have hrefused := Device.controlTransfer_of_length hdirection asked timeout a
      refine records_of_same hr hs fun id => ?_
      rw [hafter, after, hrefused]
    · have husable := Device.usable_of_owned hown hpresent
      obtain ⟨hworks, hmemorizes⟩ :=
        Device.controlTransfer_memorizes hf husable hstores hpayload timeout
      have hs : (DeviceCall.control setup data timeout).sent? a = some payload := by
        simp only [sent?, hstores, hpayload, hworks]
      have hremembered : (DeviceCall.control setup data timeout).remembered a =
          fun _ => payload := by
        funext before
        rw [remembered, hr, hs]
        rfl
      intro id
      rw [hafter, hmemorizes id, hremembered]

include hall

theorem records_perform (call : DeviceCall) : call.Records a := by
  cases call with
  | reset => exact records_reset hf hall hown hpresent
  | control setup data timeout => exact records_control hf hown hpresent setup data timeout
  | _ =>
    refine records_of_other ?_ ?_ rfl rfl
    · exact nofun
    · exact nofun

end

end DeviceCall

namespace State

/-- A step with the session that it meets. -/
structure Taken where
  met : State Bus Bus
  step : Step

/-- The steps of a session, each with the state that it meets. -/
def trace (s : State Bus Bus) : List Step → List Taken
  | [] => []
  | step :: rest => ⟨s, step⟩ :: trace (s.next step) rest

/-- The call that a step makes of a device with the number, and the device on the bus before it. -/
def Taken.call? (id : DeviceId) (t : Taken) : Option (DeviceCall × Attachment Bus) :=
  match t.step with
  | .device n call =>
    match t.met.slot? n with
    | some slot => if slot.device.id = id then some (call, ⟨slot.device, t.met.bed⟩) else none
    | none => none
  | _ => none

/-- The data that a step has sent to the device in a vendor request. -/
def Taken.sent? (id : DeviceId) (t : Taken) : Option (List UInt8) :=
  (t.call? id).bind fun c => c.1.sent? c.2

/-- Whether a step has reset the device. -/
def Taken.resets (id : DeviceId) (t : Taken) : Bool :=
  (t.call? id).any fun c => c.1.resets c.2

/-- The steps behind the last reset of the device. -/
def sinceReset (id : DeviceId) (l : List Taken) : List Taken := l.rtakeWhile fun t => !t.resets id

/-- What the device remembers after a session: what was sent last since the last reset. -/
def lastSent (id : DeviceId) (l : List Taken) : List UInt8 :=
  ((sinceReset id l).filterMap (Taken.sent? id)).getLast?.getD []

/-- What a step makes of what the device remembers. -/
def Taken.remembered (id : DeviceId) (t : Taken) (before : List UInt8) : List UInt8 :=
  if t.resets id then [] else (t.sent? id).getD before

/-- Nothing is made to fail, and each device is on the bus and holds what it believes to hold. -/
structure Working (s : State Bus Bus) : Prop extends Sound s where
  failures : s.bed.failures = ∅
  present : ∀ {n slot}, s.slot? n = some slot → (s.bed.device? slot.device.id).isSome

/-- A step that leaves the session working and changes what is remembered as it says. -/
def Follows (s : State Bus Bus) (step : Step) : Prop :=
  Working (s.next step) ∧ ∀ id,
    (s.next step).bed.memory? id = (s.bed.memory? id).map (Taken.remembered id ⟨s, step⟩)

section

variable {s : State Bus Bus}

theorem remembered_of_no_call {t : Taken} {id : DeviceId} (h : t.call? id = none) :
    t.remembered id = fun before => before := by
  funext before
  rw [Taken.remembered, Taken.resets, Taken.sent?, h]
  rfl

theorem remembered_of_call {t : Taken} {id : DeviceId} {call : DeviceCall} {a : Attachment Bus}
    (h : t.call? id = some (call, a)) : t.remembered id = call.remembered a := by
  funext before
  rw [Taken.remembered, Taken.resets, Taken.sent?, h]
  rfl

/-- A step that is no call of a device, and changes nothing that is remembered. -/
theorem follows_of_same {step : Step} (hw : Working (s.next step))
    (hcall : ∀ id, Taken.call? id ⟨s, step⟩ = none)
    (hm : ∀ id, (s.next step).bed.memory? id = s.bed.memory? id) : Follows s step := by
  refine ⟨hw, fun id => ?_⟩
  rw [hm, remembered_of_no_call (hcall id), Option.map_id_fun']
  rfl

/-- A step that names nothing there changes nothing. -/
theorem follows_of_none (hs : Working s) {step : Step} (h : s.perform? step = none)
    (hcall : ∀ id, Taken.call? id ⟨s, step⟩ = none) : Follows s step := by
  have hsame : s.next step = s := next_of_none h
  refine follows_of_same ?_ hcall fun id => by rw [hsame]
  rw [hsame]
  exact hs

theorem isSome_memory? (b : Bus) (id : DeviceId) :
    (b.memory? id).isSome = (b.device? id).isSome := Option.isSome_map

/-- What one device does keeps the session working, if no device is lost by it. -/
theorem Working.set (hs : Working s) {n : Nat} {slot : Slot} (hn : s.slot? n = some slot) (u : Use)
    {a : Attachment Bus} (ha : after u.perform ⟨slot.device, s.bed⟩ = a) {o : Option Slot}
    (ho : ∀ x, o = some x → x.device = a.device)
    (hm : ∀ id, (a.bus.memory? id).isSome = (s.bed.memory? id).isSome) :
    Working { s with bed := a.bus, slots := s.slots.set n o } := by
  subst ha
  have hcustody := custody_use u ⟨slot.device, s.bed⟩
  obtain ⟨-, -, hframe⟩ := hcustody hs.allocated (hs.owned hn)
  have hkept : ∀ {id}, (s.bed.device? id).isSome →
      ((after u.perform ⟨slot.device, s.bed⟩).bus.device? id).isSome := by
    intro id hid
    rw [← isSome_memory?, hm, isSome_memory?]
    exact hid
  refine ⟨hs.toSound.set hn hcustody ho, ?_, fun {m x} hx => ?_⟩
  · exact (settles_use u ⟨slot.device, s.bed⟩).failures.trans hs.failures
  · rcases slot?_set s _ hx with ⟨-, hx⟩ | ⟨-, hx⟩
    · rw [ho x hx, hframe.id]
      exact hkept (hs.present hn)
    · exact hkept (hs.present hx)

/-- A use of a device in a slot that keeps what all devices remember. -/
theorem Working.keeping (hs : Working s) {n : Nat} {slot : Slot} (hn : s.slot? n = some slot)
    {α : Type} (act : DeviceAction Bus α) (u : Use) (hu : ∀ a, after u.perform a = after act a)
    (hk : Keeps Loopback.Bus.remembering.ofBus (u.perform : DeviceAction Bus Unit)) :
    Working (after (State.onSlot n slot act) s) ∧
      ∀ id, (after (State.onSlot n slot act) s).bed.memory? id = s.bed.memory? id := by
  have hm := hk ⟨slot.device, s.bed⟩
  rw [after_onSlot, ← hu]
  refine ⟨hs.set hn u rfl (fun x hx => ?_) fun id => congrArg Option.isSome (hm id), hm⟩
  cases hx
  rfl

theorem Working.hook (hs : Working s) {h : Hook} (hh : (Step.hook h).isSmooth) :
    Follows s (.hook h) := by
  have hnext : (s.next (.hook h)).bed.devices = s.bed.devices ∧
      (s.next (.hook h)).bed.failures = ∅ ∧ (s.next (.hook h)).slots = s.slots := by
    cases h with
    | failOn method kind => cases hh
    | clearFailures => exact ⟨rfl, rfl, rfl⟩
    | _ => exact ⟨rfl, hs.failures, rfl⟩
  obtain ⟨hdevices, hfailures, hslots⟩ := hnext
  refine follows_of_same ⟨hs.toSound.hook h, hfailures, fun {n slot} hn => ?_⟩ (fun _ => rfl)
    fun id => Loopback.Bus.memory?_of_devices hdevices id
  have hold : s.slot? n = some slot := by
    rw [slot?, hslots] at hn
    exact hn
  rw [Loopback.Bus.device?, hdevices]
  exact hs.present hold

/-- A device that was read is on the bus. -/
theorem of_read {b : Bus} {id : DeviceId} {d : Device}
    (h : outcome (Device.read id : Action Bus Device) b = .ok d) :
    d.id = id ∧ (b.device? id).isSome := by
  rw [Device.read, outcome_bind_pure] at h
  obtain ⟨descriptor, hread, rfl⟩ := Loopback.Bus.map_eq_ok.1 h
  refine ⟨rfl, ?_⟩
  change outcome (Loopback.Bus.deviceDescriptor id) b = .ok descriptor at hread
  rw [Loopback.Bus.deviceDescriptor_eq_serve] at hread
  rcases Loopback.Bus.serve_cases .getDeviceDescriptor none _ b with ⟨e, he, -⟩ | ⟨a, change, ha, -⟩
  · cases he.symm.trans hread
  · obtain ⟨state, hstate, -⟩ := Loopback.Bus.withDevice_eq_ok.1 ha
    rw [hstate]
    rfl

theorem Working.create (hs : Working s) (id : DeviceId) : Follows s (.create id) := by
  have hsound := hs.toSound.create id
  have hcore : (after (Device.read id) s.bed).core = s.bed.core := by
    rw [Device.read, after_bind_pure]
    exact Loopback.Bus.core_deviceDescriptor id s.bed
  have hdevices : (after (Device.read id) s.bed).devices = s.bed.devices :=
    congrArg (·.devices) hcore
  have hfailures : (after (Device.read id) s.bed).failures = ∅ :=
    (congrArg (·.failures) hcore).trans hs.failures
  have hpresent : ∀ {n slot}, s.slot? n = some slot →
      ((after (Device.read id) s.bed).device? slot.device.id).isSome := by
    intro n slot hn
    rw [Loopback.Bus.device?, hdevices]
    exact hs.present hn
  have hnext : s.next (.create id) = after (onBed (Testbed.on 0 (Device.read id)) >>= fun d =>
      (fun c => Reply.created (some c)) <$> State.add 0 d) s := next_of_perform? _ rfl
  rw [after_bind, after_onBed, outcome_onBed] at hnext
  cases hr : outcome (Device.read id) s.bed with
  | error e =>
    rw [hr] at hnext
    refine follows_of_same ⟨hsound, ?_, ?_⟩ (fun _ => rfl) fun i => ?_
    · rw [hnext]
      exact hfailures
    · rw [hnext]
      exact hpresent
    · rw [hnext]
      exact Loopback.Bus.memory?_of_devices hdevices i
  | ok d =>
    obtain ⟨hid, hsome⟩ := of_read hr
    rw [hr] at hnext
    simp only [after_map] at hnext
    refine follows_of_same ⟨hsound, ?_, fun {n slot} hn => ?_⟩ (fun _ => rfl) fun i => ?_
    · rw [hnext]
      exact hfailures
    · rw [hnext] at hn ⊢
      rcases slot?_add _ d hn with hn | hd
      · exact hpresent hn
      · change ((after (Device.read id) s.bed).device? slot.device.id).isSome
        rw [hd, hid, Loopback.Bus.device?, hdevices]
        exact hsome
    · rw [hnext]
      exact Loopback.Bus.memory?_of_devices hdevices i

theorem Working.drop (hs : Working s) (n : Nat) : Follows s (.drop n) := by
  cases hn : s.slot? n with
  | none => exact follows_of_none hs (by simp [perform?, hn]) fun _ => rfl
  | some slot =>
    have hdispose : after (Use.call .dispose).perform (⟨slot.device, s.bed⟩ : Attachment Bus) =
        after (Device.dispose true) ⟨slot.device, s.bed⟩ := Use.after_unitReply rfl _
    have hdrop : s.next (.drop n) = { s with
        bed := (after (Use.call .dispose).perform ⟨slot.device, s.bed⟩).bus
        slots := s.slots.set n none } := by
      simp only [State.next, perform?, dropSlot, hn, Testbed.focus, Testbed.restore, Device.drop_eq,
        hdispose]
      rfl
    have hm := Device.remembering_use (.call .dispose) (by simp) (by simp) ⟨slot.device, s.bed⟩
    refine follows_of_same ?_ (fun _ => rfl) fun id => ?_
    · rw [hdrop]
      exact hs.set hn (.call .dispose) rfl (fun x hx => by cases hx) fun id =>
        congrArg Option.isSome (hm id)
    · rw [hdrop]
      exact hm id

theorem Working.view (hs : Working s) (n : Nat) (path : ViewPath) : Follows s (.view n path) := by
  cases hn : s.slot? n with
  | none => exact follows_of_none hs (by simp [perform?, hn]) fun _ => rfl
  | some slot =>
    have hnext : s.next (.view n path) = after (State.onSlot n slot path.follow >>= fun r =>
        (modify fun s => { s with views := s.views ++ [(n, r.1)] }) >>= fun _ => pure r.2) s :=
      next_of_perform? _ (by simp [perform?, hn]; rfl)
    obtain ⟨hworking, hsame⟩ := hs.keeping hn path.follow (.follow path)
      (fun a => after_bind_pure _ _ a) (Device.remembering_use _ (by simp) (by simp))
    rw [after_bind] at hnext
    cases ho : outcome (State.onSlot n slot path.follow) s with
    | error e =>
      rw [ho] at hnext
      exact follows_of_same (hnext ▸ hworking) (fun _ => rfl) (hnext ▸ hsame)
    | ok r =>
      rw [ho] at hnext
      refine follows_of_same ?_ (fun _ => rfl) (hnext ▸ hsame)
      rw [hnext]
      exact ⟨hworking.toSound.views _, hworking.failures, hworking.present⟩

theorem Working.onView (hs : Working s) (v : Nat) (call : ViewCall) : Follows s (.onView v call) := by
  cases hv : s.views[v]? with
  | none => exact follows_of_none hs (by simp [perform?, hv]) fun _ => rfl
  | some p =>
    obtain ⟨n, view⟩ := p
    cases hn : s.slot? n with
    | none => exact follows_of_none hs (by simp [perform?, hv, hn]) fun _ => rfl
    | some slot =>
      cases ha : (call.perform? view : Option (DeviceAction Bus Reply)) with
      | none => exact follows_of_none hs (by simp [perform?, hv, hn, ha]) fun _ => rfl
      | some act =>
        have hnext : s.next (.onView v call) = after (State.onSlot n slot act) s :=
          next_of_perform? _ (by simp [perform?, hv, hn, ha]; rfl)
        have huse : ∀ a : Attachment Bus, after (Use.onView call view).perform a = after act a := by
          intro a
          rw [Use.perform, ha]
          exact after_bind_pure _ _ a
        obtain ⟨hworking, hm⟩ := hs.keeping hn act (.onView call view) huse
          (Device.remembering_use _ (by simp) (by simp))
        exact follows_of_same (hnext ▸ hworking) (fun _ => rfl) (hnext ▸ hm)

theorem Working.device (hs : Working s) (n : Nat) (call : DeviceCall) :
    Follows s (.device n call) := by
  cases hn : s.slot? n with
  | none =>
    refine follows_of_none hs (by simp [perform?, hn]) fun id => ?_
    simp only [Taken.call?, hn]
  | some slot =>
    have hnext : s.next (.device n call) = after (State.onSlot n slot call.perform) s :=
      next_of_perform? _ (by simp [perform?, hn]; rfl)
    rw [after_onSlot] at hnext
    have huse : after (Use.call call).perform (⟨slot.device, s.bed⟩ : Attachment Bus) =
        after call.perform ⟨slot.device, s.bed⟩ := Use.after_call call _
    have hm : ∀ id, (after call.perform (⟨slot.device, s.bed⟩ : Attachment Bus)).bus.memory? id =
        (s.bed.memory? id).map (Taken.remembered id ⟨s, .device n call⟩) := by
      intro id
      have hrecords : call.Records ⟨slot.device, s.bed⟩ :=
        call.records_perform hs.failures hs.allocated (hs.owned hn) (hs.present hn)
      rw [hrecords id]
      by_cases hid : slot.device.id = id
      · have hcall : Taken.call? id ⟨s, .device n call⟩ = some (call, ⟨slot.device, s.bed⟩) := by
          simp only [Taken.call?, hn, if_pos hid]
        rw [if_pos hid, remembered_of_call hcall]
      · have hcall : Taken.call? id ⟨s, .device n call⟩ = none := by
          simp only [Taken.call?, hn, if_neg hid]
        rw [if_neg hid, remembered_of_no_call hcall, Option.map_id_fun']
        rfl
    refine ⟨?_, fun id => by rw [hnext]; exact hm id⟩
    rw [hnext]
    refine hs.set hn (.call call) huse (fun x hx => ?_) fun id => ?_
    · cases hx
      rfl
    · rw [hm, Option.isSome_map]

/-- Each smooth step changes what is remembered as it says. -/
theorem Working.next (hs : Working s) {step : Step} (h : step.isSmooth) : Follows s step := by
  cases step with
  | hook k => exact hs.hook h
  | create id => exact hs.create id
  | drop n => exact hs.drop n
  | device n call => exact hs.device n call
  | view n path => exact hs.view n path
  | onView v call => exact hs.onView v call
  | _ => cases h

theorem sinceReset_concat (id : DeviceId) (l : List Taken) (t : Taken) :
    sinceReset id (l ++ [t]) = if t.resets id then [] else sinceReset id l ++ [t] := by
  rw [sinceReset, List.rtakeWhile_concat]
  cases t.resets id <;> rfl

/-- What is remembered after one more step. -/
theorem lastSent_concat (id : DeviceId) (l : List Taken) (t : Taken) :
    lastSent id (l ++ [t]) = t.remembered id (lastSent id l) := by
  rw [lastSent, sinceReset_concat, Taken.remembered]
  split
  · rfl
  · rw [List.filterMap_append]
    cases hsent : t.sent? id with
    | none => simp [hsent, lastSent]
    | some payload => simp [hsent]

theorem trace_concat (s : State Bus Bus) (steps : List Step) (step : Step) :
    trace s (steps ++ [step]) = trace s steps ++ [⟨s.afterSteps steps, step⟩] := by
  induction steps generalizing s with
  | nil => rfl
  | cons first rest ih => exact congrArg _ (ih (s.next first))

/-- A session that starts with nothing remembered remembers what was sent last. -/
theorem Working.afterSteps (hs : Working s) {steps : List Step}
    (h : ∀ step ∈ steps, step.isSmooth)
    (hm : ∀ id, s.bed.memory? id = (s.bed.device? id).map fun _ => []) :
    Working (s.afterSteps steps) ∧ ∀ id, (s.afterSteps steps).bed.memory? id =
      (s.bed.device? id).map fun _ => lastSent id (trace s steps) := by
  induction steps using List.reverseRecOn with
  | nil => exact ⟨hs, hm⟩
  | append_singleton steps step ih =>
    obtain ⟨hworking, hmemory⟩ := ih fun x hx => h x (List.mem_append_left _ hx)
    have hlast : s.afterSteps (steps ++ [step]) = (s.afterSteps steps).next step := by
      rw [State.afterSteps, List.foldl_append]
      rfl
    obtain ⟨hnext, hfollows⟩ := hworking.next (h step (List.mem_append_right _ (.head _)))
    rw [hlast]
    refine ⟨hnext, fun id => ?_⟩
    rw [hfollows, hmemory, Option.map_map, trace_concat, lastSent_concat]
    rfl

theorem working_ofBus (specs : List Loopback.Device) : Working (ofBus (.ofDevices specs)) where
  toSound := sound_ofBus specs
  failures := rfl
  present := nofun

theorem memory?_ofDevices (specs : List Loopback.Device) (id : DeviceId) :
    (Bus.ofDevices specs).memory? id = ((Bus.ofDevices specs).device? id).map fun _ => [] := by
  simp only [Bus.memory?, Bus.device?, Bus.ofDevices, List.getElem?_map, Option.map_map]
  rfl

end

/-- Any number of devices on one bus, in any order of steps where nothing is made to fail. A vendor
request that reads gets what the last vendor request has sent to the device since its last reset,
cut or filled up with zeros to what it asks for; one that sends is taken; a length cannot be sent,
and no bus is asked to. No control transfer reads more than it asks for. -/
theorem vendor_memory (specs : List Loopback.Device) (steps : List Step)
    (hd : ∀ step ∈ steps, step.isSmooth) (n : Nat) (slot : Slot)
    (hn : ((ofBus (.ofDevices specs)).afterSteps steps).slot? n = some slot)
    (setup : Setup) (data : ControlData) (timeout : Option Nat) :
    let start := ofBus (.ofDevices specs)
    let memory := lastSent slot.device.id (trace start steps)
    let act {σ : Type} [Backend σ] : DeviceAction σ Transferred :=
      Device.controlTransfer setup data timeout
    let a : Attachment Bus := ⟨slot.device, (start.afterSteps steps).bed⟩
    (requestKind setup.requestType = .vendor → requestDirection setup.requestType = .toHost →
      ∃ reply, outcome act a = .ok (.read reply) ∧ reply.length = data.asked ∧
        reply = memory.take data.asked ++ List.replicate (data.asked - memory.length) 0) ∧
    (requestKind setup.requestType = .vendor → requestDirection setup.requestType = .toDevice →
      ∀ payload, data.payload .toDevice = .ok (.send payload) →
        outcome act a = .ok (.written payload.length)) ∧
    (requestDirection setup.requestType = .toDevice → ∀ asked, data = .length asked →
      ∀ {σ : Type} [Backend σ] (x : Attachment σ), act x =
        .error (.invalidArgument
          "host-to-device control transfer needs a payload, not a length") x) ∧
    (requestDirection setup.requestType = .toHost → ∀ r, outcome act a = .ok r →
      ∃ reply, r = .read reply ∧ reply.length ≤ data.asked) := by
  intro start memory act a
  obtain ⟨hworking, hmemory⟩ :=
    (working_ofBus specs).afterSteps hd (memory?_ofDevices specs)
  have husable : Device.Usable slot.device (start.afterSteps steps).bed :=
    Device.usable_of_owned (a := a) (hworking.owned hn) (hworking.present hn)
  have hremembered : a.bus.memory? slot.device.id = some memory := by
    have hsome : (a.bus.memory? slot.device.id).isSome := by
      rw [isSome_memory?]
      exact hworking.present hn
    rw [hmemory] at hsome ⊢
    obtain ⟨before, hbefore⟩ := Option.isSome_iff_exists.1 (Option.isSome_map.symm.trans hsome)
    rw [hbefore]
    rfl
  refine ⟨fun hkind hdirection => ?_, fun hkind hdirection payload hpayload => ?_, ?_, ?_⟩
  · have hrecalls := Device.controlTransfer_recalls (a := a) hworking.failures husable hkind
      hdirection data timeout
    change outcome act a = .ok (.read (Bus.padded data.asked
      ((a.bus.memory? slot.device.id).getD []))) at hrecalls
    rw [hremembered] at hrecalls
    exact ⟨_, hrecalls, Device.length_padded _ _, rfl⟩
  · exact (Device.controlTransfer_memorizes (a := a) hworking.failures husable
      (Setup.stores_eq_true.2 ⟨hkind, hdirection⟩) hpayload timeout).1
  · rintro hdirection asked rfl σ _ x
    exact Device.controlTransfer_of_length hdirection asked timeout x
  · intro hdirection r hr
    exact Device.controlTransfer_bounded hdirection hr

/-- Two devices send, one resets the bus device, and it is claimed, written to and closed between
what is sent last and what is read. -/
theorem vendor_memory_after_reset :
    let specs := [Loopback.Device.bulkLoopback 1 2]
    let send : UInt8 → List UInt8 → DeviceCall := fun request data =>
      .control ⟨requestType .toDevice .vendor .device, request, 0, 0⟩ (.bytes data) none
    let steps : List Step :=
      [.create ⟨0⟩, .create ⟨0⟩, .device 0 (send 1 [7, 8, 9]), .device 1 .reset,
        .device 1 (send 2 [1, 2, 3]), .device 0 (.write 0x01 [5] none none),
        .device 0 (.setConfiguration (some 1)), .device 1 .dispose]
    let read : Setup := ⟨requestType .toHost .vendor .endpoint, 3, 4, 5⟩
    ∃ slot, ((ofBus (.ofDevices specs)).afterSteps steps).slot? 0 = some slot ∧
      let a : Attachment Bus := ⟨slot.device, ((ofBus (.ofDevices specs)).afterSteps steps).bed⟩
      outcome (Device.controlTransfer read (.length 2) none) a = .ok (.read [1, 2]) ∧
      outcome (Device.controlTransfer read (.bytes [0, 0, 0, 0, 0]) none) a =
        .ok (.read [1, 2, 3, 0, 0]) := by
  intro specs send steps read
  have hd : ∀ step ∈ steps, step.isSmooth := by decide
  have hslot : (((ofBus (.ofDevices specs)).afterSteps steps).slot? 0).any
      (fun slot => lastSent slot.device.id (trace (ofBus (.ofDevices specs)) steps) == [1, 2, 3]) =
        true := by decide +kernel
  obtain ⟨slot, hn, hsent⟩ := (Option.any_eq_true _ _).1 hslot
  have hmemory := beq_iff_eq.1 hsent
  obtain ⟨hshort, -⟩ := vendor_memory specs steps hd 0 slot hn read (.length 2) none
  obtain ⟨hlong, -⟩ := vendor_memory specs steps hd 0 slot hn read (.bytes [0, 0, 0, 0, 0]) none
  have hkind : requestKind read.requestType = .vendor := by decide
  have hdirection : requestDirection read.requestType = .toHost := by decide
  obtain ⟨reply, ho, -, hreply⟩ := hshort hkind hdirection
  obtain ⟨reply', ho', -, hreply'⟩ := hlong hkind hdirection
  rw [hmemory] at hreply hreply'
  subst hreply hreply'
  exact ⟨slot, hn, ho, ho'⟩

end State

end SerialBus.Session
