import SerialBus.Proofs.ClaimedTransfers
import SerialBus.Proofs.Mirrored
import SerialBus.Session.Basic

/-! Devices that share a loopback bus. Whatever they do and wherever it fails, each device holds on
the bus what it believes to hold, and no two of them hold the same handle. -/
namespace SerialBus.Session

open SerialBus.Action Custody
open Loopback (Bus)

/-- Steps that use the bus through devices only, or change what fails. -/
def Step.usesDevices : Step → Bool
  | .hook _ | .create _ | .drop _ | .device .. | .view .. | .onView .. => true
  | _ => false

namespace State

/-- The session after a step, whether it fails or not. -/
def next (s : State Bus Bus) (step : Step) : State Bus Bus :=
  match s.perform? step with
  | none => s
  | some (.ok _ t) => t
  | some (.error _ t) => t

def afterSteps (s : State Bus Bus) (steps : List Step) : State Bus Bus := steps.foldl next s

/-- A session without devices on a bus. -/
def ofBus (b : Bus) : State Bus Bus := { bed := b }

/-- Each device holds what it believes to hold, on a handle that no other device has. -/
structure Sound (s : State Bus Bus) : Prop where
  allocated : Allocated s.bed
  owned : ∀ {n slot}, s.slot? n = some slot → Owned slot.device s.bed
  apart : ∀ {m n x y h}, s.slot? m = some x → s.slot? n = some y → m ≠ n →
    x.device.held.handle = some h → y.device.held.handle ≠ some h

theorem slot?_set (s : State Bus Bus) (b : Bus) {n m : Nat} {o : Option Slot} {x : Slot}
    (h : ({ s with bed := b, slots := s.slots.set n o } : State Bus Bus).slot? m = some x) :
    m = n ∧ o = some x ∨ m ≠ n ∧ s.slot? m = some x := by
  unfold slot? at h ⊢
  rw [List.getElem?_set] at h
  split at h
  next hm =>
    subst hm
    split at h
    · exact .inl ⟨rfl, h⟩
    · cases h
  next hm => exact .inr ⟨Ne.symm hm, h⟩

theorem slot?_add (s : State Bus Bus) (d : Device) {m : Nat} {x : Slot}
    (h : ({ s with slots := s.slots ++ [some ⟨0, d⟩] } : State Bus Bus).slot? m = some x) :
    s.slot? m = some x ∨ x.device = d := by
  unfold slot? at h ⊢
  rcases Nat.lt_trichotomy m s.slots.length with hlt | heq | hgt
  · rw [List.getElem?_append_left hlt] at h
    exact .inl h
  · subst heq
    rw [List.getElem?_concat_length] at h
    cases h
    exact .inr rfl
  · rw [List.getElem?_eq_none (by simp; omega)] at h
    cases h

/-- A device that keeps to its frame leaves to the others what is theirs. -/
theorem owned_of_frame {d e other : Device} {b c : Bus} (hf : Frame d b e c) (ha : Allocated b)
    (ho : Owned other b) (hne : ∀ h, other.held.handle = some h → d.held.handle ≠ some h) :
    Owned other c := by
  refine ⟨ho.closed, ho.depth, fun h hh => ?_⟩
  obtain ⟨claimed, hown, hsub⟩ := ho.opened h hh
  have hlt : h.number < b.nextHandle := ha h (by rw [hown]; rfl)
  exact ⟨claimed, by rw [hf.others h hlt (hne h hh), hown], hsub⟩

/-- What one device does, and whether it is then put away or not, keeps the session sound. -/
theorem Sound.set {s : State Bus Bus} (hs : s.Sound) {n : Nat} {slot : Slot}
    (hn : s.slot? n = some slot) {a : Attachment Bus}
    (hc : (custody id).rel ⟨slot.device, s.bed⟩ a) {o : Option Slot}
    (ho : ∀ x, o = some x → x.device = a.device) :
    ({ s with bed := a.bus, slots := s.slots.set n o } : State Bus Bus).Sound := by
  obtain ⟨hall, hown, hframe⟩ := hc hs.allocated (hs.owned hn)
  have hfresh : ∀ {m x h}, s.slot? m = some x → m ≠ n → x.device.held.handle = some h →
      a.device.held.handle ≠ some h := by
    intro m x h hm hne hh ha
    rcases hframe.handle with hsame | hnew
    · exact hs.apart hm hn hne hh (hsame ▸ ha)
    · obtain ⟨claimed, hx, -⟩ := (hs.owned hm).opened h hh
      have hlt : h.number < s.bed.nextHandle := hs.allocated h (by rw [hx]; rfl)
      have hge : s.bed.nextHandle ≤ h.number := hnew h ha
      omega
  refine ⟨hall, fun {m x} hm => ?_, fun {m k x y h} hm hk hne hh hy => ?_⟩
  · rcases slot?_set s a.bus hm with ⟨rfl, hx⟩ | ⟨hne, hm⟩
    · rw [ho x hx]
      exact hown
    · exact owned_of_frame hframe hs.allocated (hs.owned hm) fun h hh =>
        hs.apart hm hn hne hh
  · rcases slot?_set s a.bus hm with ⟨hmn, hx⟩ | ⟨hmn, hm'⟩ <;>
      rcases slot?_set s a.bus hk with ⟨hkn, hy'⟩ | ⟨hkn, hk'⟩
    · exact hne (hmn.trans hkn.symm)
    · rw [ho x hx] at hh
      exact hfresh hk' hkn hy hh
    · rw [ho y hy'] at hy
      exact hfresh hm' hmn hh hy
    · exact hs.apart hm' hk' hne hh hy

/-- The session after an operation of the device in a slot. -/
theorem after_onSlot {α : Type} (s : State Bus Bus) (n : Nat) (slot : Slot)
    (act : DeviceAction Bus α) :
    after (onSlot n slot act) s =
      { s with
        bed := (after act ⟨slot.device, s.bed⟩).bus
        slots := s.slots.set n
          (some { slot with device := (after act ⟨slot.device, s.bed⟩).device }) } := by
  cases h : act ⟨slot.device, s.bed⟩ <;>
    simp only [after, onSlot, Testbed.focus, Testbed.restore, h]

theorem Sound.onSlot {α : Type} {s : State Bus Bus} (hs : s.Sound) {n : Nat} {slot : Slot}
    (hn : s.slot? n = some slot) {act : DeviceAction Bus α} (hk : Keeps (custody id) act) :
    (after (State.onSlot n slot act) s).Sound := by
  rw [after_onSlot]
  refine hs.set hn (hk ⟨slot.device, s.bed⟩) fun x hx => ?_
  cases hx
  rfl

theorem Sound.views {s : State Bus Bus} (hs : s.Sound) (views : List (Nat × View)) :
    ({ s with views } : State Bus Bus).Sound :=
  ⟨hs.allocated, hs.owned, hs.apart⟩

/-- A bus with the same owners will do as well. -/
theorem Sound.bed {s : State Bus Bus} (hs : s.Sound) {b : Bus}
    (hb : Loopback.Bus.SameOwners s.bed b) : ({ s with bed := b } : State Bus Bus).Sound := by
  refine ⟨allocated_of_same hb hs.allocated, fun hn => ?_, hs.apart⟩
  obtain ⟨hc, hd, ho⟩ := hs.owned hn
  exact ⟨hc, hd, fun h hh => by rw [hb.owner]; exact ho h hh⟩

theorem keeps_perform (call : DeviceCall) :
    Keeps (custody id) (call.perform : DeviceAction Bus Reply) :=
  keeps_of_simulates fun a => ((parts_custody mirror_id).inStep a).call
    ((parts_custody mirror_id).transfers a) call fun _ => (keeps_reset mirror_id).simulates a

theorem keeps_follow (path : ViewPath) :
    Keeps (custody id) (path.follow : DeviceAction Bus (View × Reply)) :=
  keeps_of_simulates fun a => ((parts_custody mirror_id).inStep a).whole.follow path

theorem keeps_perform? {call : ViewCall} {view : View} {act : DeviceAction Bus Reply}
    (h : call.perform? view = some act) : Keeps (custody id) act :=
  keeps_of_simulates fun a => ((parts_custody mirror_id).inStep a).perform?
    ((parts_custody mirror_id).transfers a) call view h h

theorem next_of_perform? {s : State Bus Bus} {step : Step} (act : Action (State Bus Bus) Reply)
    (h : s.perform? step = some (act s)) : s.next step = after act s := by
  unfold State.next after
  rw [h]
  cases act s <;> rfl

theorem next_of_none {s : State Bus Bus} {step : Step} (h : s.perform? step = none) :
    s.next step = s := by
  unfold State.next
  rw [h]

theorem Sound.hook {s : State Bus Bus} (hs : s.Sound) (h : Hook) : (s.next (.hook h)).Sound := by
  have hp : s.perform? (.hook h) = (s.bed.hook h).map fun r => .ok r.1 { s with bed := r.2 } := by
    simp only [perform?, Testbed.hook]
    cases s.bed.hook h <;> rfl
  unfold State.next
  rw [hp]
  cases hb : s.bed.hook h with
  | none => exact hs
  | some r => exact hs.bed (Loopback.Bus.sameOwners_hook hb)

theorem Sound.drop {s : State Bus Bus} (hs : s.Sound) (n : Nat) : (s.next (.drop n)).Sound := by
  cases hn : s.slot? n with
  | none => rwa [next_of_none (by simp [perform?, hn])]
  | some slot =>
    have hdrop : s.next (.drop n) = { s with
        bed := (after (Device.dispose true : DeviceAction Bus Unit) ⟨slot.device, s.bed⟩).bus
        slots := s.slots.set n none } := by
      simp only [State.next, perform?, dropSlot, hn, Testbed.focus, Testbed.restore, Device.drop_eq]
      rfl
    rw [hdrop]
    exact hs.set hn (keeps_dispose mirror_id true _) fun x hx => by cases hx

/-- A new device holds nothing, so it can join any sound session. -/
theorem Sound.add {s : State Bus Bus} (hs : s.Sound) {d : Device} (hd : d.held = .empty) :
    (after (State.add 0 d) s).Sound := by
  have hadd : after (State.add 0 d) s = { s with slots := s.slots ++ [some ⟨0, d⟩] } := rfl
  rw [hadd]
  have hnone : d.held.handle = none := by rw [hd]; rfl
  refine ⟨hs.allocated, fun hm => ?_, fun {m k x y h} hm hk hne hh hy => ?_⟩
  · rcases slot?_add s d hm with hm | hx
    · exact hs.owned hm
    · rw [hx]
      refine ⟨fun _ => by rw [hd]; rfl, fun n level hl => ?_, fun h hh => ?_⟩
      · rw [hd] at hl
        cases hl
      · rw [hnone] at hh
        cases hh
  · rcases slot?_add s d hm with hm | hx
    · rcases slot?_add s d hk with hk | hy'
      · exact hs.apart hm hk hne hh hy
      · rw [hy', hnone] at hy
        cases hy
    · rw [hx, hnone] at hh
      cases hh

theorem after_onBed {α : Type} (act : Action Bus α) (s : State Bus Bus) :
    after (onBed (Testbed.on 0 act)) s = { s with bed := after act s.bed } := by
  cases h : act s.bed <;>
    simp only [after, onBed, Testbed.on, Testbed.focus, Testbed.restore, h]

theorem outcome_onBed {α : Type} (act : Action Bus α) (s : State Bus Bus) :
    outcome (onBed (Testbed.on 0 act)) s = outcome act s.bed := by
  cases h : act s.bed <;>
    simp only [outcome, onBed, Testbed.on, Testbed.focus, Testbed.restore, h]

theorem Sound.create {s : State Bus Bus} (hs : s.Sound) (id : DeviceId) :
    (s.next (.create id)).Sound := by
  rw [next_of_perform? (onBed (Testbed.on 0 (Device.read id)) >>= fun d =>
    (fun c => .created (some c)) <$> State.add 0 d) rfl]
  have hread : Loopback.Bus.SameOwners s.bed (after (Device.read id) s.bed) := by
    rw [Device.read, after_bind_pure]
    exact Loopback.Bus.sameOwners_act (.deviceDescriptor id) rfl s.bed
  rw [after_bind, after_onBed, outcome_onBed]
  cases hr : outcome (Device.read id) s.bed with
  | error e => exact hs.bed hread
  | ok d =>
    rw [Device.read, outcome_bind_pure] at hr
    obtain ⟨descriptor, -, rfl⟩ := Loopback.Bus.map_eq_ok.1 hr
    simp only [after_map]
    exact (hs.bed hread).add rfl

theorem Sound.view {s : State Bus Bus} (hs : s.Sound) (n : Nat) (path : ViewPath) :
    (s.next (.view n path)).Sound := by
  cases hn : s.slot? n with
  | none => rwa [next_of_none (by simp [perform?, hn])]
  | some slot =>
    rw [next_of_perform? (State.onSlot n slot path.follow >>= fun r =>
      (modify fun s => { s with views := s.views ++ [(n, r.1)] }) >>= fun _ => pure r.2)
      (by simp [perform?, hn]; rfl)]
    have hfollow := hs.onSlot hn (keeps_follow path)
    rw [after_bind]
    cases outcome (State.onSlot n slot path.follow) s with
    | error e => exact hfollow
    | ok r => exact hfollow.views _

theorem Sound.device {s : State Bus Bus} (hs : s.Sound) (n : Nat) (call : DeviceCall) :
    (s.next (.device n call)).Sound := by
  cases hn : s.slot? n with
  | none => rwa [next_of_none (by simp [perform?, hn])]
  | some slot =>
    rw [next_of_perform? (State.onSlot n slot call.perform) (by simp [perform?, hn]; rfl)]
    exact hs.onSlot hn (keeps_perform call)

theorem Sound.onView {s : State Bus Bus} (hs : s.Sound) (v : Nat) (call : ViewCall) :
    (s.next (.onView v call)).Sound := by
  cases hv : s.views[v]? with
  | none => rwa [next_of_none (by simp [perform?, hv])]
  | some p =>
    obtain ⟨n, view⟩ := p
    cases hn : s.slot? n with
    | none => rwa [next_of_none (by simp [perform?, hv, hn])]
    | some slot =>
      cases ha : (call.perform? view : Option (DeviceAction Bus Reply)) with
      | none => rwa [next_of_none (by simp [perform?, hv, hn, ha])]
      | some act =>
        rw [next_of_perform? (State.onSlot n slot act) (by simp [perform?, hv, hn, ha]; rfl)]
        exact hs.onSlot hn (keeps_perform? ha)

/-- Each step through a device keeps the session sound. -/
theorem Sound.next {s : State Bus Bus} (hs : s.Sound) {step : Step} (hd : step.usesDevices) :
    (s.next step).Sound := by
  cases step with
  | hook h => exact hs.hook h
  | create id => exact hs.create id
  | drop n => exact hs.drop n
  | device n call => exact hs.device n call
  | view n path => exact hs.view n path
  | onView v call => exact hs.onView v call
  | _ => cases hd

theorem sound_ofBus (specs : List Loopback.Device) : (ofBus (.ofDevices specs)).Sound :=
  ⟨fun _ hh => (by cases hh), fun hn => (by cases hn), fun hm => (by cases hm)⟩

theorem Sound.afterSteps {s : State Bus Bus} (hs : s.Sound) {steps : List Step}
    (hd : ∀ step ∈ steps, step.usesDevices) : (s.afterSteps steps).Sound := by
  induction steps generalizing s with
  | nil => exact hs
  | cons step rest ih =>
    exact ih (hs.next (hd step List.mem_cons_self)) fun x hx => hd x (List.mem_cons_of_mem _ hx)

/-- What is true of a device among others on one bus. -/
structure InOrder (s : State Bus Bus) (n : Nat) (d : Device) : Prop where
  /-- A device that claims something has a handle. -/
  open_if_claimed : d.held.claimed.isEmpty = false → d.held.handle.isSome
  depth : ∀ i level, d.held.claimed.get? i = some level → 1 ≤ level
  /-- The handle is in the table of the bus, for this device and with all that is claimed. -/
  handle : ∀ h, d.held.handle = some h → ∃ held, s.bed.handles.get? h = some held ∧
    held.device = d.id ∧ ∀ i, d.held.claimed.contains i = true → held.claimed.contains i = true
  alone : ∀ h, d.held.handle = some h → ∀ m other, m ≠ n → s.slot? m = some other →
    other.device.held.handle ≠ some h
  /-- Each primitive that a transfer issues names this handle, and an interface claimed on it. -/
  transfers : ∀ endpoint payload target timeout,
    let watched : Attachment (Watched Bus) :=
      after (Device.transfer endpoint payload target timeout) ⟨d, ⟨s.bed, []⟩⟩
    ∀ e ∈ watched.bus.log, ∀ t, e.call.dataTransfer? = some t →
      watched.device.held.handle = some t.handle ∧
        ∃ held, e.met.handles.get? t.handle = some held ∧ held.device = d.id ∧
          held.claimed.contains t.number = true
  /-- The transfer that is watched is the transfer that the device makes. -/
  watching : ∀ endpoint payload target timeout,
    let act {σ : Type} [Backend σ] : DeviceAction σ Transferred :=
      Device.transfer endpoint payload target timeout
    outcome act (⟨d, ⟨s.bed, []⟩⟩ : Attachment (Watched Bus)) =
        outcome act (⟨d, s.bed⟩ : Attachment Bus) ∧
      Device.Seen Watched.inner (after act ⟨d, ⟨s.bed, []⟩⟩) (after act ⟨d, s.bed⟩)

theorem Sound.inOrder {s : State Bus Bus} (hs : s.Sound) {n : Nat} {slot : Slot}
    (hn : s.slot? n = some slot) : InOrder s n slot.device := by
  have ho := hs.owned hn
  refine ⟨fun hc => ?_, ho.depth, fun h hh => ?_, fun h hh m other hm ho' => ?_,
    fun endpoint payload target timeout => ?_,
    fun endpoint payload target timeout => Device.simulates_transfer Watched.mirror_inner rfl
      endpoint payload target timeout _ _ ⟨rfl, rfl⟩⟩
  · cases hh : slot.device.held.handle with
    | some h => rfl
    | none =>
      rw [ho.closed hh] at hc
      cases hc
  · obtain ⟨claimed, hown, hsub⟩ := ho.opened h hh
    obtain ⟨held, hget, hid, rfl⟩ := Loopback.Bus.owner_eq_some.1 hown
    exact ⟨held, hget, hid, hsub⟩
  · exact hs.apart hn ho' (Ne.symm hm) hh
  · intro watched e he t ht
    obtain ⟨hh, claimed, hown, hnumber⟩ :=
      transfer_on_claimed hs.allocated ho rfl endpoint payload target timeout he ht
    obtain ⟨held, hget, hid, rfl⟩ := Loopback.Bus.owner_eq_some.1 hown
    exact ⟨hh, held, hget, hid, hnumber⟩

/-- Any number of devices on one bus, in any order of steps with failures turned on and off between
them: in each state that is reached all devices are in order. -/
theorem devices_in_order (specs : List Loopback.Device) (steps : List Step)
    (hd : ∀ step ∈ steps, step.usesDevices) (n : Nat) (slot : Slot)
    (hn : ((ofBus (.ofDevices specs)).afterSteps steps).slot? n = some slot) :
    InOrder ((ofBus (.ofDevices specs)).afterSteps steps) n slot.device :=
  ((sound_ofBus specs).afterSteps hd).inOrder hn

/-- Two devices write to the same endpoint, and the release of the first one's interface fails. -/
theorem devices_in_order_failed_release :
    let specs := [Loopback.Device.bulkLoopback 1 2]
    let steps : List Step :=
      [.create ⟨0⟩, .create ⟨0⟩, .device 0 (.write 0x01 [1, 2] none none),
        .device 1 (.write 0x01 [3] none none), .hook (.failOn .releaseInterface .noDevice),
        .device 0 (.release (some 0))]
    ∃ slot, ((ofBus (.ofDevices specs)).afterSteps steps).slot? 0 = some slot ∧
      slot.device.held.claimed.contains 0 = true ∧
      InOrder ((ofBus (.ofDevices specs)).afterSteps steps) 0 slot.device := by
  intro specs steps
  have hd : ∀ step ∈ steps, step.usesDevices := by decide
  have hc : (((ofBus (.ofDevices specs)).afterSteps steps).slot? 0).any
      (fun slot => slot.device.held.claimed.contains 0) = true := by decide +kernel
  obtain ⟨slot, hn, hc⟩ := (Option.any_eq_true _ _).1 hc
  exact ⟨slot, hn, hc, devices_in_order specs steps hd 0 slot hn⟩

end State

end SerialBus.Session
