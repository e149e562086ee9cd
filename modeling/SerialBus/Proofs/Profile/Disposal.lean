import SerialBus.Proofs.BusEvolution
import SerialBus.Proofs.Profile.Represents

/-! Disposals and resets of a represented device. All claims can be given back and the handle can be
closed, so that nothing is left but the device on the bus. -/
namespace SerialBus.Loopback.Profile

open SerialBus.Action SerialBus.Device

/-- A device after a reset. -/
def wiped (s : DeviceState) : DeviceState := { s with
  pipes := ∅
  controlBuffer := []
  halted := ∅ }

/-- The devices stay as they are. -/
def unmoved : Evolution Bus where
  rel b c := c.devices = b.devices
  refl _ := rfl
  trans h g := g.trans h

theorem unmoved_releaseInterface (h : HandleId) (n : UInt8) :
    Keeps unmoved (Backend.releaseInterface h n : Action Bus Unit) := by
  intro b
  rcases Bus.releaseInterface_cases b h n with ⟨e, -, hc⟩ | ⟨held, -, -, -, hs⟩
  · exact congrArg (·.devices) hc
  · exact congrArg (·.devices) hs

theorem unmoved_closeDevice (h : HandleId) :
    Keeps unmoved (Backend.closeDevice h : Action Bus Unit) := by
  intro b
  rcases Bus.closeDevice_cases b h with ⟨e, -, hc⟩ | ⟨-, hs⟩
  · exact congrArg (·.devices) hc
  · exact congrArg (·.devices) hs

theorem devices_dispose (close : Bool) (a : Attachment Bus) :
    (after (dispose close) a).bus.devices = a.bus.devices :=
  BusEvolution.keeps_dispose unmoved_releaseInterface unmoved_closeDevice close a

/-- What a device on a working bus needs in order to be disposed of: the claims that it counts are
claims of its handle. -/
structure Holding (id : DeviceId) (shown : DeviceDescriptor) (s : DeviceState)
    (a : Attachment Bus) : Prop where
  device : a.device.id = id
  descriptor : a.device.descriptor = shown
  failures : a.bus.failures = ∅
  state : a.bus.device? id = some s
  opened : ∀ h, a.device.held.handle = some h → ∃ r, a.bus.handles.get? h = some r ∧
    r.device = id ∧ ∀ n, a.device.held.claimed.contains n = true → r.claimed.contains n = true

section

variable {id : DeviceId} {shown : DeviceDescriptor} {s : DeviceState} {p : Profile}

theorem Represents.holding {a : Attachment Bus} (ha : Represents id p a) :
    Holding id p.state.spec.descriptor p.state a where
  device := ha.device
  descriptor := ha.descriptor
  failures := ha.failures
  state := ha.state
  opened h hh := by
    obtain ⟨r, hr, hdevice, -, hclaimed⟩ := ha.opened h hh
    exact ⟨r, hr, hdevice, fun n hn => (hclaimed n).trans hn⟩

/-- With nothing held the device is what its profile says, if no selections are in it. -/
theorem Holding.represents {a : Attachment Bus}
    (ha : Holding id p.state.spec.descriptor p.state a) (hheld : a.device.held = .empty) :
    Represents id p.forgotten a := by
  refine ⟨ha.device, ha.descriptor, ha.failures, ha.state, fun _ => ?_, fun h hh => ?_, ?_, nofun,
    fun i hi => ?_, fun key kind hk => ?_⟩
  · rw [hheld]
    exact ⟨rfl, rfl⟩
  · rw [hheld] at hh
    cases hh
  · rw [hheld]
    rfl
  · rw [hheld] at hi
    cases hi
  · rw [hheld] at hk
    cases hk

/-- Claims that are claims of the handle are given back one after another. -/
theorem releaseEach_works {b : Bus} {h : HandleId} {r : Handle} (hf : b.failures = ∅)
    (hr : b.handles.get? h = some r) {numbers : List UInt8} (hnodup : numbers.Nodup)
    (hclaimed : ∀ n ∈ numbers, r.claimed.contains n = true) :
    let c := after (releaseEach h numbers) b
    outcome (releaseEach h numbers) b = .ok none ∧ c.failures = ∅ ∧ c.devices = b.devices ∧
      ∃ r', c.handles.get? h = some r' ∧ r'.device = r.device := by
  induction numbers generalizing b r with
  | nil => exact ⟨rfl, hf, rfl, r, hr, rfl⟩
  | cons number rest ih =>
    obtain ⟨hnumber, hrest⟩ := List.nodup_cons.1 hnodup
    obtain ⟨ho, hs⟩ := Bus.releaseInterface_works hf hr (hclaimed number List.mem_cons_self)
    have hr' : (after (Backend.releaseInterface h number : Action Bus Unit) b).handles.get? h =
        some { r with
          claimed := r.claimed.erase number
          alternates := r.alternates.erase number } := by
      rw [hs]
      exact Table.get?_modify_self.trans (congrArg _ hr)
    have hf' : (after (Backend.releaseInterface h number : Action Bus Unit) b).failures = ∅ := by
      rw [hs]
      exact hf
    obtain ⟨hor, hfr, hdr, r', hget, hdevice⟩ := ih hf' hr' hrest fun n hn => by
      have hne : number ≠ n := fun heq => hnumber (heq ▸ hn)
      exact (Table.contains_erase_of_ne hne).trans (hclaimed n (List.mem_cons_of_mem _ hn))
    have hnone : outcome (releaseEach h (number :: rest)) b = .ok none := by
      rw [releaseEach, outcome_bind_ok _ (outcome_attempt _ _), after_attempt,
        outcome_bind_ok _ hor, ho]
      rfl
    rw [after_releaseEach_cons]
    refine ⟨hnone, hfr, hdr.trans ?_, r', hget, hdevice⟩
    rw [hs]
    rfl

theorem releaseAll_works {a : Attachment Bus} (ha : Holding id shown s a) :
    outcome releaseAll a = .ok none ∧ Holding id shown s (after releaseAll a) ∧
      (after releaseAll a).device.held = { a.device.held with claimed := ∅ } := by
  cases hh : a.device.held.handle with
  | none =>
    obtain ⟨ho, hs⟩ := eq_ok_iff.1 (releaseAll_of_none hh)
    rw [ho, hs]
    refine ⟨rfl, ⟨ha.device, ha.descriptor, ha.failures, ha.state, fun h hopen => ?_⟩, rfl⟩
    exact absurd (hh.symm.trans hopen) nofun
  | some h =>
    have heq := releaseAll_of_some hh
    obtain ⟨r, hr, hdevice, hclaimed⟩ := ha.opened h hh
    obtain ⟨ho, hf, hdevices, r', hr', hdevice'⟩ := releaseEach_works ha.failures hr
      a.device.held.claimed.nodup_keys fun n hn => hclaimed n (Table.mem_keys.1 hn)
    rw [outcome_congr heq, after_congr heq, outcome_onBus, after_onBus]
    refine ⟨ho, ⟨ha.device, ha.descriptor, hf, ?_, fun i hi => ?_⟩, rfl⟩
    · rw [Bus.device?, Attachment.hold, hdevices]
      exact ha.state
    · cases hh.symm.trans hi
      exact ⟨r', hr', hdevice'.trans hdevice, fun n hn => (by cases hn)⟩

/-- The handle can be closed if there is one. -/
theorem closeIf_works (close : Bool) {a : Attachment Bus} (ha : Holding id shown s a) :
    outcome (closeIf close) a = .ok (.ok ()) ∧ Holding id shown s (after (closeIf close) a) ∧
      (after (closeIf close) a).device.held.handle =
        (if close then none else a.device.held.handle) ∧
      (a.device.held.claimed = ∅ → (after (closeIf close) a).device.held.claimed = ∅) := by
  cases close with
  | false => exact ⟨rfl, ha, rfl, fun hnone => hnone⟩
  | true =>
    rw [closeIf, if_pos rfl, outcome_attempt, after_attempt]
    cases hh : a.device.held.handle with
    | none =>
      obtain ⟨ho, hs⟩ := eq_ok_iff.1 (closeHandle_of_none hh)
      rw [ho, hs]
      exact ⟨rfl, ha, hh, fun hnone => hnone⟩
    | some h =>
      have heq := closeHandle_of_some hh
      obtain ⟨r, hr, -⟩ := ha.opened h hh
      obtain ⟨ho, hs⟩ := Bus.closeDevice_works ha.failures hr
      rw [outcome_congr heq, after_congr heq, outcome_onBus, after_onBus]
      refine ⟨congrArg _ ho, ⟨ha.device, ha.descriptor, ?_, ?_, fun i hi => ?_⟩, rfl, fun _ => rfl⟩
      · exact (congrArg Bus.failures hs).trans ha.failures
      · exact (congrArg (Bus.device? · id) hs).trans ha.state
      · cases hi

/-- A disposal gives everything back. -/
theorem dispose_works (close : Bool) {a : Attachment Bus} (ha : Holding id shown s a) :
    outcome (dispose close) a = .ok () ∧ Holding id shown s (after (dispose close) a) ∧
      (after (dispose close) a).device.held =
        ⟨if close then none else a.device.held.handle, none, ∅, ∅, ∅⟩ := by
  obtain ⟨hreleased, ha', hheld⟩ := releaseAll_works ha
  obtain ⟨hclosed, hb, hhandle, hclaimed⟩ := closeIf_works close ha'
  obtain ⟨ho, hs⟩ := dispose_apply hreleased hclosed
  rw [ho, hs]
  refine ⟨rfl, ⟨hb.device, hb.descriptor, hb.failures, hb.state, hb.opened⟩, ?_⟩
  rw [hheld] at hhandle hclaimed
  simp only [Attachment.hold, hhandle, hclaimed rfl]

theorem gives_dispose : Gives (Represents id p) (dispose true) (.ok ())
    (Represents id p.forgotten) := by
  intro a ha
  obtain ⟨ho, hb, hheld⟩ := dispose_works true ha.holding
  exact ⟨ho, hb.represents hheld⟩

/-- With the handle open a reset gives everything back, and wipes the device in between. -/
theorem reset_works {a : Attachment Bus} (ha : Holding id shown s a) {h : HandleId}
    (hh : a.device.held.handle = some h) :
    let rest : DeviceAction Bus Unit := dispose false >>= fun _ =>
      onBus (Backend.resetDevice h) >>= fun _ => dispose true
    outcome rest a = .ok () ∧ (after rest a).device.held = .empty ∧
      (after rest a).bus.devices = (a.bus.modifyDevice id wiped).devices ∧
      Holding id shown (wiped s) (after rest a) := by
  intro rest
  obtain ⟨ho, hb, hheld⟩ := dispose_works false ha
  have hdevices := devices_dispose false a
  simp only [rest]
  rw [outcome_bind_ok _ ho, after_bind_ok _ ho]
  generalize after (dispose false) a = b at hb hheld hdevices ⊢
  have hopen : b.device.held.handle = some h := (congrArg Holdings.handle hheld).trans hh
  obtain ⟨r, hr, hdevice, hclaimed⟩ := hb.opened h hopen
  obtain ⟨ho, hs⟩ := Bus.resetDevice_works hb.failures hr
  have ho' : outcome (onBus (Backend.resetDevice h)) b = .ok () := (outcome_onBus _ b).trans ho
  rw [outcome_bind_ok _ ho', after_bind_ok _ ho', after_onBus, hs, hdevice]
  let c : Attachment Bus := ⟨b.device, (b.bus.counted .resetDevice none).modifyDevice id wiped⟩
  have hreset : Holding id shown (wiped s) c := by
    refine ⟨hb.device, hb.descriptor, hb.failures, ?_, fun i hi => ?_⟩
    · exact Bus.device?_modifyDevice_of_some _ hb.state rfl
    · cases hopen.symm.trans hi
      exact ⟨r, hr, hdevice, hclaimed⟩
  obtain ⟨ho, hc, hheld⟩ := dispose_works true hreset
  refine ⟨ho, hheld, (devices_dispose true c).trans ?_, hc⟩
  change b.bus.devices.modify id.number wiped = a.bus.devices.modify id.number wiped
  rw [hdevices]

/-- A reset empties the queues of the device and ends its halts. -/
theorem gives_reset : Gives (Represents id p) SerialBus.Device.reset (.ok ())
    (Represents id p.reset) := by
  apply succeeds_openHandle.bind
  rintro h a ⟨ha, hh⟩
  obtain ⟨ho, hheld, -, hc⟩ := reset_works ha.holding hh
  have hreset : Holding id p.reset.state.spec.descriptor p.reset.state _ := hc
  exact ⟨ho, hreset.represents hheld⟩

end

end SerialBus.Loopback.Profile
