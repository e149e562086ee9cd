import SerialBus.Proofs.Device.Requests
import SerialBus.Proofs.Routing.Coherence

/-! The configuration that a device takes to be active, over runs in which anything may be made to
fail: its index is that of a configuration with the value that the device itself reports. -/
namespace SerialBus.Routing

open SerialBus.Action Device Session Custody
open Loopback (Bus)

/-- The device stays attached. -/
def attachment (spec : Loopback.Device) : Evolution (Attachment Bus) where
  rel a e := Attached spec a → Attached spec e
  refl _ ha := ha
  trans h g ha := g (h ha)

section

variable {spec : Loopback.Device} {a : Attachment Bus}

theorem attachment_of_still (a e : Attachment Bus) (h : (still spec).rel a e) :
    (attachment spec).rel a e := fun ha => (h ha).1

theorem attachment_of_coherence {T : Typing} (a e : Attachment Bus)
    (h : (coherence T spec).rel a e) : (attachment spec).rel a e := fun ha => (h ha).1

theorem attachment_act {α : Type} (d : Device) (op : Operation α) (hs : op.isSteady) :
    Keeps ((attachment spec).onBus d) (op.act : Action Bus α) := fun b =>
  attachment_of_still _ _ (still_act d op hs b)

theorem whole_attachment (a : Attachment Bus) : Whole .same ((attachment spec).from a) where
  name := rfl
  device := device_of_from
  bus := fun d {_} op hq hs _ =>
    (attachment_act d op (Operation.isSteady_of_isQuiet hq hs)).simulates_on a
  setTimeout n := Keeps.simulates (Keeps.mono (still_modify fun _ => ⟨rfl, rfl, rfl, rfl⟩)
    attachment_of_still : Keeps (attachment spec)
      (modifyDevice ({ · with defaultTimeout := n }))) a
  openHandle := (still_openHandle.mono attachment_of_still).simulates_opening a
  acquire number level _ := ((still_acquire number level).mono attachment_of_still).simulates a
  release number := ((still_release number).mono attachment_of_still).simulates a
  dispose := ((coherence_dispose (T := .declared) true).mono attachment_of_coherence).simulates a
  setConfiguration value :=
    ((coherence_setConfiguration (T := .declared) value).mono attachment_of_coherence).simulates a
  activeConfiguration := (still_activeConfiguration.mono attachment_of_still).simulates a
  selectAlternate number alternate :=
    ((still_selectAlternate number alternate).mono attachment_of_still).simulates a

theorem attachment_transfer (endpoint : UInt8) (payload : Payload) (target : InterfaceTarget)
    (timeout : Option Nat) : Keeps (attachment spec)
      (transfer endpoint payload target timeout : DeviceAction Bus Transferred) :=
  fun _ ha => attached_transfer ha endpoint payload target timeout

/-- Whatever a device does, and however it fails, the device stays attached. -/
theorem attached_use (ha : Attached spec a) (u : Use) : Attached spec (after u.perform a) := by
  have hkeeps : Keeps (attachment spec) (u.perform : DeviceAction Bus Unit) :=
    keeps_of_simulates fun a => simulates_use_of_whole (whole_attachment a)
      (fun _ _ _ _ => (attachment_transfer _ _ _ _).simulates a) u
      (fun _ _ _ _ _ => (attachment_transfer _ _ _ _).simulates a)
      (fun _ => ((coherence_reset (T := .declared)).mono attachment_of_coherence).simulates a)
      fun setup data timeout _ =>
        (keeps_controlTransfer (still_openHandle.mono attachment_of_still) (fun d h payload ms =>
          attachment_act d (.controlTransfer h setup payload ms) rfl) data timeout).simulates a
  exact hkeeps a ha

theorem still_hook (k : Hook) (a : Attachment Bus) : (still spec).rel a (Move.step a (.hook k)) :=
  still_of_steady rfl rfl rfl rfl (routine_step k a).steady

theorem attached_step (ha : Attached spec a) (m : Move) : Attached spec (m.step a) := by
  cases m with
  | use u => exact attached_use ha u
  | hook k => exact (still_hook k a ha).1

theorem attached_run (ha : Attached spec a) (moves : List Move) : Attached spec (run a moves) := by
  induction moves generalizing a with
  | nil => exact ha
  | cons m rest ih => exact ih (attached_step ha m)

end

theorem attached_atStart {specs : List Loopback.Device} {id : DeviceId} {spec : Loopback.Device}
    (hspec : specs[id.number]? = some spec) (descriptor : DeviceDescriptor) :
    Attached spec (atStart specs id descriptor) where
  state := by
    refine ⟨.ofSpec spec, ?_, rfl⟩
    change (specs.map Loopback.DeviceState.ofSpec)[id.number]? = _
    rw [List.getElem?_map, hspec]
    rfl
  opened := nofun
  anchored := nofun
  active := nofun

/-- In every state of every run the index that a device takes for that of its active configuration
is the index of one: of the first configuration with the value that the bus has for the device. The
device holds a handle, which is open for it, and reports this value through it, unless control
transfers are made to fail. -/
theorem active_is_reported {specs : List Loopback.Device} {id : DeviceId} {spec : Loopback.Device}
    (hspec : specs[id.number]? = some spec) (descriptor : DeviceDescriptor) (moves : List Move)
    (i : UInt8)
    (hi : (run (atStart specs id descriptor) moves).device.held.activeConfig = some i) :
    let a := run (atStart specs id descriptor) moves
    ∃ c h held,
      spec.configurations[i.toNat]? = some c ∧
      a.bus.activeConfiguration? id = some c.descriptor.configurationValue ∧
      spec.configurationByValue? c.descriptor.configurationValue = some c ∧
      a.device.held.handle = some h ∧ a.bus.handles.get? h = some held ∧ held.device = id ∧
      outcome reportedConfiguration a =
        match a.bus.failures.get? .ctrlTransfer with
        | some kind => .error (.transport kind none)
        | none => .ok c.descriptor.configurationValue := by
  intro a
  have ha : Attached spec a := attached_run (attached_atStart hspec descriptor) moves
  have hid : a.device.id = id :=
    ((custody_run moves _ (allocated_atStart specs id descriptor)
      (owned_atStart specs id descriptor)).2.2).id
  obtain ⟨d, found, hd, hindexed⟩ := ha.active i hi
  obtain ⟨c, hc, -, hvalue⟩ := hindexed.read
  have hsame : c.descriptor.configurationValue = d.activeConfiguration := by
    have hfit := List.find?_some hvalue
    exact eq_of_beq hfit
  obtain ⟨h, hh⟩ := Option.isSome_iff_exists.1 (ha.anchored (by rw [hi]; rfl))
  obtain ⟨held, hget, hown⟩ := ha.opened h hh
  refine ⟨c, h, held, hc, ?_, hsame ▸ hvalue, hh, hget, hown.trans hid, ?_⟩
  · rw [Bus.activeConfiguration?, ← hid, hd, hsame]
    rfl
  · rw [hsame]
    exact outcome_reportedConfiguration hh hget (hown ▸ hd)

/-- A device with the configurations 1 and 2 at the indices 0 and 1. -/
def twoValues : Loopback.Device :=
  ((Loopback.Device.ofDescriptor {}).addConfiguration
    (.ofDescriptor { configurationValue := 1 })).addConfiguration
      (.ofDescriptor { configurationValue := 2 })

/-- The second configuration is selected, and then the selection of the first one fails. -/
def failedSelection : List Move :=
  [.use (.call (.setConfiguration (some 2))), .hook (.failOn .setConfiguration .busy),
    .use (.call (.setConfiguration (some 1)))]

theorem active_is_reported_failedSelection :
    let a := run (atStart [twoValues] ⟨0⟩ twoValues.descriptor) failedSelection
    a.device.held.activeConfig = some 1 ∧ a.bus.failures.contains .setConfiguration = true ∧
      a.bus.activeConfiguration? ⟨0⟩ = some 2 ∧ outcome reportedConfiguration a = .ok 2 := by
  intro a
  have hi : a.device.held.activeConfig = some 1 := by decide +kernel
  have hspec : [twoValues][(⟨0⟩ : DeviceId).number]? = some twoValues := rfl
  obtain ⟨c, h, held, hc, hactive, -, -, -, -, hreported⟩ :=
    active_is_reported hspec twoValues.descriptor failedSelection 1 hi
  cases hc
  exact ⟨hi, by decide +kernel, hactive, hreported⟩

end SerialBus.Routing
