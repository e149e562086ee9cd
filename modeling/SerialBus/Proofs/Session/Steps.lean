import SerialBus.Proofs.Session.Memory

/-! What the steps of a session come to for the bus and its devices. Whatever is done and wherever
it fails, the devices on the bus stay what they were when they were plugged in, and those in use
stay on the bus. -/
namespace SerialBus

open SerialBus.Action Custody
open Loopback (Bus DeviceState)

namespace Loopback.Bus

/-- Each device stays what it was when it was plugged in. -/
def identity : Evolution Bus where
  rel := Same DeviceState.spec
  refl _ _ := rfl
  trans h g := fun id => (g id).trans (h id)

theorem identity_of_devices {b c : Bus} (h : c.devices = b.devices) : identity.rel b c :=
  same_of_devices h

theorem identity_act {α : Type} (op : Operation α) : Keeps identity (op.act : Action Bus α) := by
  intro b
  cases hc : op.configures with
  | false =>
    intro id
    have hprofile := congrArg (Option.map Prod.fst) (sameProfiles_act op hc b id)
    rw [Option.map_map, Option.map_map] at hprofile
    exact hprofile
  | true =>
    cases op with
    | setConfiguration h value =>
      rcases setConfiguration_cases h value b with ⟨e, -, hs⟩ | ⟨held, d, -, -, -, -, hs⟩
      · exact identity_of_devices (congrArg (·.devices) hs)
      · change identity.rel b (after (setConfiguration h value) b)
        rw [hs]
        exact @same_modifyDevice (b.counted .setConfiguration none) _ _ held.device _ fun _ _ => rfl
    | _ => cases hc

/-- No use of a device makes it or another one a different device. -/
theorem identity_use (u : Use) : Keeps identity.ofBus (u.perform : DeviceAction Bus Unit) := by
  have hact : ∀ {α : Type} (op : Operation α), op.isStandard →
      Keeps identity (op.act : Action Bus α) := fun op _ => identity_act op
  have hopen := BusEvolution.opening hact
  have hdispose : ∀ close, Keeps identity.ofBus (Device.dispose close : DeviceAction Bus Unit) :=
    BusEvolution.keeps_dispose (fun i n => identity_act (.releaseInterface i n))
      fun i => identity_act (.closeDevice i)
  -- A reset and a control transfer are not put together from standard operations only.
  refine BusEvolution.keeps_use hact u (fun _ => ?_) fun setup data timeout _ => ?_
  · exact hopen.bind fun h => (hdispose false).bind fun _ =>
      (BusEvolution.keeps_onBus (identity_act (.resetDevice h))).bind fun _ => hdispose true
  · exact keeps_controlTransfer hopen (fun _ h payload ms =>
      identity_act (.controlTransfer h setup payload ms)) data timeout

end Loopback.Bus

namespace Session.State

/-- What a step comes to for the bus and for the devices in use. -/
inductive Effect (s t : State Bus Bus) : Prop
  /-- Nothing is done to a device. -/
  | none (devices : t.bed.devices = s.bed.devices) (slots : t.slots = s.slots)
  /-- A device of the bus is taken up, which holds nothing. -/
  | taken (d : Device) (present : (s.bed.device? d.id).isSome) (held : d.held = .empty)
    (devices : t.bed.devices = s.bed.devices) (slots : t.slots = s.slots ++ [some ⟨0, d⟩])
  /-- A device in use is used, and put back or put away. -/
  | used {n : Nat} {slot : Slot} (hn : s.slot? n = some slot) (u : Use) (o : Option Slot)
    (device : ∀ x, o = some x → x.device = (after u.perform ⟨slot.device, s.bed⟩).device)
    (bed : t.bed = (after u.perform ⟨slot.device, s.bed⟩).bus)
    (slots : t.slots = s.slots.set n o)

variable {s : State Bus Bus}

theorem effect_of_none {step : Step} (h : s.perform? step = none) : Effect s (s.next step) := by
  rw [next_of_none h]
  exact .none rfl rfl

theorem effect_hook (s : State Bus Bus) (h : Hook) : Effect s (s.next (.hook h)) := by
  cases h <;> exact .none rfl rfl

theorem effect_create (s : State Bus Bus) (id : DeviceId) : Effect s (s.next (.create id)) := by
  have hdevices : (after (Device.read id) s.bed).devices = s.bed.devices := by
    rw [Device.read, after_bind_pure]
    exact congrArg (·.devices) (Loopback.Bus.core_deviceDescriptor id s.bed)
  rw [next_of_perform? (onBed (Testbed.on 0 (Device.read id)) >>= fun d =>
    (fun c => .created (some c)) <$> State.add 0 d) rfl, after_bind, after_onBed, outcome_onBed]
  cases hr : outcome (Device.read id) s.bed with
  | error e => exact .none hdevices rfl
  | ok d =>
    obtain ⟨hid, hsome⟩ := of_read hr
    rw [Device.read, outcome_bind_pure] at hr
    obtain ⟨descriptor, -, rfl⟩ := Loopback.Bus.map_eq_ok.1 hr
    simp only [after_map]
    exact .taken _ hsome rfl hdevices rfl

theorem effect_drop (s : State Bus Bus) (n : Nat) : Effect s (s.next (.drop n)) := by
  cases hn : s.slot? n with
  | none => exact effect_of_none (by simp [perform?, hn])
  | some slot =>
    have hdispose : after (Use.call .dispose).perform (⟨slot.device, s.bed⟩ : Attachment Bus) =
        after (Device.dispose true) ⟨slot.device, s.bed⟩ := Use.after_unitReply rfl _
    have hdrop : s.next (.drop n) = { s with
        bed := (after (Use.call .dispose).perform ⟨slot.device, s.bed⟩).bus
        slots := s.slots.set n none } := by
      simp only [State.next, perform?, dropSlot, hn, Testbed.focus, Testbed.restore, Device.drop_eq,
        hdispose]
      rfl
    rw [hdrop]
    exact .used hn (.call .dispose) none (fun x hx => by cases hx) rfl rfl

/-- An operation of the device in a slot that comes to a use of it, whatever is viewed then. -/
theorem effect_onSlot {α : Type} {n : Nat} {slot : Slot} (hn : s.slot? n = some slot)
    {act : DeviceAction Bus α} {u : Use}
    (hu : after u.perform ⟨slot.device, s.bed⟩ = after act ⟨slot.device, s.bed⟩)
    (views : List (Nat × View)) : Effect s { after (State.onSlot n slot act) s with views } := by
  rw [after_onSlot, ← hu]
  refine .used hn u _ (fun x hx => ?_) rfl rfl
  cases hx
  rfl

theorem effect_device (s : State Bus Bus) (n : Nat) (call : DeviceCall) :
    Effect s (s.next (.device n call)) := by
  cases hn : s.slot? n with
  | none => exact effect_of_none (by simp [perform?, hn])
  | some slot =>
    rw [next_of_perform? (State.onSlot n slot call.perform) (by simp [perform?, hn]; rfl)]
    exact effect_onSlot hn (Use.after_call call _) _

theorem effect_view (s : State Bus Bus) (n : Nat) (path : ViewPath) :
    Effect s (s.next (.view n path)) := by
  cases hn : s.slot? n with
  | none => exact effect_of_none (by simp [perform?, hn])
  | some slot =>
    rw [next_of_perform? (State.onSlot n slot path.follow >>= fun r =>
      (modify fun s => { s with views := s.views ++ [(n, r.1)] }) >>= fun _ => pure r.2)
      (by simp [perform?, hn]; rfl), after_bind]
    have hu : after (Use.follow path).perform (⟨slot.device, s.bed⟩ : Attachment Bus) =
        after path.follow ⟨slot.device, s.bed⟩ := after_bind_pure _ _ _
    cases outcome (State.onSlot n slot path.follow) s with
    | error e => exact effect_onSlot hn hu _
    | ok r => exact effect_onSlot hn hu _

theorem effect_onView (s : State Bus Bus) (v : Nat) (call : ViewCall) :
    Effect s (s.next (.onView v call)) := by
  cases hv : s.views[v]? with
  | none => exact effect_of_none (by simp [perform?, hv])
  | some p =>
    obtain ⟨n, view⟩ := p
    cases hn : s.slot? n with
    | none => exact effect_of_none (by simp [perform?, hv, hn])
    | some slot =>
      cases ha : (call.perform? view : Option (DeviceAction Bus Reply)) with
      | none => exact effect_of_none (by simp [perform?, hv, hn, ha])
      | some act =>
        rw [next_of_perform? (State.onSlot n slot act) (by simp [perform?, hv, hn, ha]; rfl)]
        have hu : after (Use.onView call view).perform (⟨slot.device, s.bed⟩ : Attachment Bus) =
            after act ⟨slot.device, s.bed⟩ := by
          rw [Use.perform, ha]
          exact after_bind_pure _ _ _
        exact effect_onSlot hn hu _

/-- A step that uses the bus through devices takes one up, uses one, or does nothing to any. -/
theorem effect_next (s : State Bus Bus) {step : Step} (hd : step.usesDevices) :
    Effect s (s.next step) := by
  cases step with
  | hook h => exact effect_hook s h
  | create id => exact effect_create s id
  | drop n => exact effect_drop s n
  | device n call => exact effect_device s n call
  | view n path => exact effect_view s n path
  | onView v call => exact effect_onView s v call
  | _ => cases hd

/-- The bus has the devices that were plugged in, and each device in use is one of them. -/
structure Hosted (specs : List Loopback.Device) (s : State Bus Bus) : Prop extends Sound s where
  specs : ∀ id, (s.bed.device? id).map DeviceState.spec = specs[id.number]?
  present : ∀ {n slot}, s.slot? n = some slot → (s.bed.device? slot.device.id).isSome

variable {specs : List Loopback.Device}

/-- A device that is on the bus stays on it. -/
theorem present_of_identity {b c : Bus} {id : DeviceId} (h : Loopback.Bus.identity.rel b c)
    (hb : (b.device? id).isSome) : (c.device? id).isSome := by
  have hsome := congrArg Option.isSome (h id)
  rw [Option.isSome_map, Option.isSome_map] at hsome
  exact hsome.trans hb

/-- Each step keeps the devices on the bus what they are, and those in use on it. -/
theorem Hosted.next (hs : Hosted specs s) {step : Step} (hd : step.usesDevices) :
    Hosted specs (s.next step) := by
  have hsound := hs.toSound.next hd
  suffices h : Loopback.Bus.identity.rel s.bed (s.next step).bed ∧
      ∀ {n slot}, (s.next step).slot? n = some slot → (s.bed.device? slot.device.id).isSome from
    ⟨hsound, fun id => (h.1 id).trans (hs.specs id), fun hn => present_of_identity h.1 (h.2 hn)⟩
  cases effect_next s hd with
  | none devices slots =>
    refine ⟨Loopback.Bus.identity_of_devices devices, fun {n slot} hn => hs.present (n := n) ?_⟩
    rw [slot?, ← slots]
    exact hn
  | taken d present held devices slots =>
    refine ⟨Loopback.Bus.identity_of_devices devices, fun {n slot} hn => ?_⟩
    rw [slot?, slots] at hn
    rcases slot?_add s d hn with hn | hdevice
    · exact hs.present hn
    · rw [hdevice]
      exact present
  | @used n slot hn u o device bed slots =>
    have hidentity := Loopback.Bus.identity_use u ⟨slot.device, s.bed⟩
    obtain ⟨-, -, hframe⟩ := custody_use u ⟨slot.device, s.bed⟩ hs.allocated (hs.owned hn)
    refine ⟨?_, fun {m x} hm => ?_⟩
    · rw [bed]
      exact hidentity
    · rw [slot?, slots] at hm
      rcases slot?_set s s.bed hm with ⟨-, hx⟩ | ⟨-, hm⟩
      · rw [device x hx, hframe.id]
        exact hs.present hn
      · exact hs.present hm

theorem hosted_ofBus (specs : List Loopback.Device) : Hosted specs (ofBus (.ofDevices specs)) where
  toSound := sound_ofBus specs
  specs id := by
    simp only [ofBus, Bus.ofDevices, Loopback.Bus.device?, List.getElem?_map, Option.map_map]
    exact Option.map_id'
  present := nofun

theorem Hosted.afterSteps (hs : Hosted specs s) {steps : List Step}
    (hd : ∀ step ∈ steps, step.usesDevices) : Hosted specs (s.afterSteps steps) := by
  induction steps generalizing s with
  | nil => exact hs
  | cons step rest ih =>
    exact ih (hs.next (hd step List.mem_cons_self)) fun x hx => hd x (List.mem_cons_of_mem _ hx)

end Session.State

end SerialBus
