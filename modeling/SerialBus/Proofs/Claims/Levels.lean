import SerialBus.Proofs.Loopback.Working
import SerialBus.Proofs.Routing.Active
import SerialBus.Proofs.Session.Accounts

/-! What claims, releases and transfers do to the claims that a device counts, where nothing is made
to fail: a claim adds one, a release takes one, and a transfer makes one out of none. -/
namespace SerialBus.Levels

open SerialBus.Action Device Session Custody Routing
open Loopback (Bus)

/-- How many claims the device counts on an interface. -/
def level (d : Device) (n : UInt8) : Nat := (d.held.claimed.get? n).getD 0

theorem level_of_claimed {d e : Device} (h : e.held.claimed = d.held.claimed) (n : UInt8) :
    level e n = level d n := by
  unfold level
  rw [h]

/-- Nothing is made to fail, the device is on the bus, and what it counts as claimed is what is
claimed on its handle. -/
structure Faithful (a : Attachment Bus) : Prop where
  failures : a.bus.failures = ∅
  present : (a.bus.device? a.device.id).isSome
  closed : a.device.held.handle = none → a.device.held.claimed = ∅
  opened : ∀ h, a.device.held.handle = some h → ∃ claimed,
    a.bus.owner h = some (a.device.id, claimed) ∧
      ∀ n, claimed.contains n = a.device.held.claimed.contains n

/-- What stays faithful and claims the same. -/
def searching : Evolution (Attachment Bus) where
  rel a e := Faithful a → Faithful e ∧ e.device.held.claimed = a.device.held.claimed
  refl _ ha := ⟨ha, rfl⟩
  trans h g ha := by
    obtain ⟨he, hsame⟩ := h ha
    obtain ⟨hk, hrest⟩ := g he
    exact ⟨hk, hrest.trans hsame⟩

section

variable {a e : Attachment Bus}

/-- The handle on the bus of a device that has one. -/
theorem Faithful.handle (ha : Faithful a) {h : HandleId} (hh : a.device.held.handle = some h) :
    ∃ held, a.bus.handles.get? h = some held ∧
      ∀ n, held.claimed.contains n = a.device.held.claimed.contains n := by
  obtain ⟨claimed, hown, hsame⟩ := ha.opened h hh
  obtain ⟨held, hget, -, rfl⟩ := Bus.owner_eq_some.1 hown
  exact ⟨held, hget, hsame⟩

/-- A step that changes neither owners nor what the device holds. -/
theorem searching_of_same (hs : Bus.SameOwners a.bus e.bus) (hp : Bus.SameProfiles a.bus e.bus)
    (hf : e.bus.failures = a.bus.failures) (hid : e.device.id = a.device.id)
    (hh : e.device.held.handle = a.device.held.handle)
    (hc : e.device.held.claimed = a.device.held.claimed) : searching.rel a e := by
  intro ha
  refine ⟨⟨hf.trans ha.failures, ?_, ?_, fun h hopen => ?_⟩, hc⟩
  · have hprofile := congrArg Option.isSome (hp a.device.id)
    rw [Option.isSome_map, Option.isSome_map] at hprofile
    rw [hid, hprofile]
    exact ha.present
  · rw [hh, hc]
    exact ha.closed
  · rw [hid, hs.owner, hc]
    exact ha.opened h (hh ▸ hopen)

theorem searching_act {α : Type} (d : Device) (op : Operation α) (hq : op.isQuiet)
    (hs : op.selects = false) : Keeps (searching.onBus d) (op.act : Action Bus α) := by
  intro b
  have howners := Bus.sameOwners_act op (Operation.isQuiet_iff.1 hq).1 b
  have hconfigures : op.configures = false := by
    cases op <;> first | rfl | cases hs
  exact searching_of_same howners (Bus.sameProfiles_act op hconfigures b) (Bus.failures_act op b)
    rfl rfl rfl

theorem searching_hold {f : Holdings → Holdings} (hf : RemembersOnly f) :
    Keeps searching (modifyHeld f : DeviceAction Bus Unit) := fun _ =>
  searching_of_same ⟨fun _ => rfl, rfl⟩ (.refl _) rfl rfl (hf.handle_eq _)
    (hf.claimed _)

/-- A new handle claims nothing, and neither does a device that opens one. -/
theorem searching_openHandle : Keeps searching (openHandle : DeviceAction Bus HandleId) := by
  apply keeps_opening
  intro a hh ha
  obtain ⟨d, hd⟩ := Option.isSome_iff_exists.1 ha.present
  obtain ⟨ho, hs⟩ := Bus.openDevice_works ha.failures hd
  rw [after_openHandle_of_none hh, ho, hs]
  refine ⟨⟨ha.failures, ha.present, nofun, fun h hopen => ?_⟩, rfl⟩
  cases hopen
  refine ⟨∅, Bus.owner_eq_some.2 ⟨_, Table.get?_insert_self, rfl, rfl⟩, fun n => ?_⟩
  exact congrArg (fun t : Table UInt8 Nat => t.contains n) (ha.closed hh).symm

theorem plain_searching (a : Attachment Bus) : Plain .same (searching.from a) :=
  plain_of_keeps (fun d {_} op hq hs _ => searching_act d op hq hs) a

/-- To find the way of a transfer nothing is claimed or given back. -/
theorem searching_route (endpoint : UInt8) (target : InterfaceTarget) : Keeps searching
    (route endpoint target : DeviceAction Bus (InterfaceLocation × TransferType)) := by
  refine keeps_of_simulates fun a => ?_
  have hP := plain_searching a
  have hactive := hP.activeConfiguration (searching_openHandle.simulates_opening a) fun index =>
    Keeps.simulates (searching_hold ⟨fun _ _ => rfl, fun _ => rfl⟩ :
      Keeps searching (noteActive index : DeviceAction Bus Unit)) a
  have htype := fun address l => hP.endpointType (fun key kind =>
    Keeps.simulates (searching_hold ⟨fun _ _ => rfl, fun _ => rfl⟩ :
      Keeps searching (noteType key kind : DeviceAction Bus Unit)) a) address l
  unfold route
  rw [findInterface_eq]
  exact (hactive.bind fun p => hP.findTarget target p.1 p.2.numInterfaces).bind fun l =>
    (htype endpoint l).bind fun _ => simulates_pure _

/-! What is claimed and given back. -/

theorem openHandle_works (ha : Faithful a) : ∃ h, outcome openHandle a = .ok h ∧
    Faithful (after openHandle a) ∧ (after openHandle a).device.held.handle = some h ∧
      (after openHandle a).device.held.claimed = a.device.held.claimed := by
  have hok : ∃ h, outcome openHandle a = .ok h := by
    cases hh : a.device.held.handle with
    | some h => exact ⟨h, (eq_ok_iff.1 (openHandle_of_some hh)).1⟩
    | none =>
      obtain ⟨d, hd⟩ := Option.isSome_iff_exists.1 ha.present
      rw [outcome_openHandle_of_none hh]
      exact ⟨_, (Bus.openDevice_works ha.failures hd).1⟩
  obtain ⟨h, ho⟩ := hok
  obtain ⟨he, hsame⟩ := searching_openHandle a ha
  exact ⟨h, ho, he, handle_after_openHandle ho, hsame⟩

theorem acquire_works (ha : Faithful a) (n : UInt8) (f : Nat → Nat) :
    outcome (acquire n f) a = .ok () ∧ (after (acquire n f) a).device.held.claimed =
      a.device.held.claimed.insert n (f (level a.device n)) := by
  obtain ⟨h, ho, hs, hh, hsame⟩ := openHandle_works ha
  generalize hafter : after openHandle a = s at hs hh hsame
  have honce : outcome (claimOnce h n) s = .ok () := by
    cases hc : s.device.held.claimed.contains n with
    | true => exact (eq_ok_iff.1 (claimOnce_of_claimed hc)).1
    | false =>
      obtain ⟨held, hget, hcontains⟩ := hs.handle hh
      rw [outcome_congr (claimOnce_of_unclaimed hc), outcome_onBus]
      exact (Bus.claimInterface_works hs.failures hget ((hcontains n).trans hc)).1
  have hdevice := device_after_claimOnce h n (a := s)
  rw [acquire_eq, outcome_bind_ok _ ho, after_bind_ok _ ho, hafter, outcome_bind_ok _ honce,
    after_bind_ok _ honce, after_modifyHeld, hdevice, hsame]
  exact ⟨rfl, rfl⟩

theorem level_acquire (ha : Faithful a) (n m : UInt8) (f : Nat → Nat) :
    level (after (acquire n f) a).device m =
      if n = m then f (level a.device n) else level a.device m := by
  obtain ⟨-, hclaimed⟩ := acquire_works ha n f
  rw [level, hclaimed]
  split
  next heq => rw [← heq, Table.get?_insert_self, Option.getD_some]
  next hne =>
    rw [Table.get?_insert_of_ne hne]
    rfl

/-- A release takes one claim back. -/
theorem level_release (ha : Faithful a) {n : UInt8} (hn : 1 ≤ level a.device n) :
    level (after (release (.number n)) a).device n = level a.device n - 1 := by
  obtain ⟨k, hk⟩ : ∃ k, a.device.held.claimed.get? n = some k := by
    cases hget : a.device.held.claimed.get? n with
    | none =>
      rw [level, hget] at hn
      cases hn
    | some k => exact ⟨k, rfl⟩
  have hlevel : level a.device n = k := by rw [level, hk, Option.getD_some]
  rw [hlevel] at hn ⊢
  by_cases h1 : 1 < k
  · rw [(eq_ok_iff.1 (release_of_many hk h1)).2]
    change ((a.device.held.claimed.insert n (k - 1)).get? n).getD 0 = k - 1
    rw [Table.get?_insert_self, Option.getD_some]
  · have hcontains : a.device.held.claimed.contains n = true := by
      rw [Table.contains_eq_isSome, hk]
      rfl
    obtain ⟨h, hh⟩ : ∃ h, a.device.held.handle = some h := by
      cases hh : a.device.held.handle with
      | some h => exact ⟨h, rfl⟩
      | none =>
        rw [ha.closed hh] at hk
        cases hk
    obtain ⟨held, hget, hsame⟩ := ha.handle hh
    have hworks := (Bus.releaseInterface_works ha.failures hget ((hsame n).trans hcontains)).1
    have hone : outcome (onBus (Backend.releaseInterface h n)) a = .ok () := by
      rw [outcome_onBus]
      exact hworks
    rw [after_congr (release_of_last hk h1 hh), after_bind_ok _ hone, after_modifyHeld, after_onBus]
    change ((a.device.held.claimed.erase n).get? n).getD 0 = k - 1
    rw [Table.get?_erase_self, Option.getD_none]
    omega

/-- After its interface is claimed a transfer claims nothing any more. -/
theorem device_after_dataTransfer (kind : TransferType) (h : HandleId) (endpoint n : UInt8)
    (payload : Payload) (ms : Nat) :
    (after (dataTransfer kind h endpoint n payload ms) a).device = a.device := by
  cases kind with
  | control => rfl
  | bulk | interrupt | isochronous =>
    unfold dataTransfer
    rw [after_onBus]

theorem level_carry (ha : Faithful a) (endpoint : UInt8) (payload : Payload)
    (timeout : Option Nat) (r : InterfaceLocation × TransferType) (n : UInt8) :
    level (after (carry endpoint payload timeout r) a).device n =
      if r.1.descriptor.interfaceNumber = n then max (level a.device n) 1
      else level a.device n := by
  have hone : outcome (ensureClaimed (.resolved r.1)) a = .ok () :=
    (acquire_works ha r.1.descriptor.interfaceNumber (max · 1)).1
  have hlevel := level_acquire ha r.1.descriptor.interfaceNumber n (max · 1)
  obtain ⟨⟨h, hh⟩, -⟩ := held_after_acquire
    (acquire_works ha r.1.descriptor.interfaceNumber (max · 1)).1
  obtain ⟨hopen, hsame⟩ := eq_ok_iff.1 (openHandle_of_some hh)
  unfold carry
  rw [after_bind_ok _ hone, ensureClaimed_resolved, after_bind_ok _ hopen, hsame]
  have htimeout : ∀ s : Attachment Bus, outcome (timeoutOr timeout) s =
      .ok (timeout.getD s.device.defaultTimeout) := fun _ => rfl
  rw [after_bind_ok _ (htimeout _), device_after_dataTransfer]
  refine Eq.trans hlevel ?_
  split
  next heq => rw [heq]
  next => rfl

/-- A transfer whose way is found makes one claim of none. -/
theorem level_transfer (ha : Faithful a) (endpoint : UInt8) (payload : Payload)
    (target : InterfaceTarget) (timeout : Option Nat) (n : UInt8) :
    level (after (transfer endpoint payload target timeout) a).device n =
      match outcome (route endpoint target) a with
      | .ok r =>
        if r.1.descriptor.interfaceNumber = n then max (level a.device n) 1 else level a.device n
      | .error _ => level a.device n := by
  obtain ⟨hs, hsame⟩ := searching_route endpoint target a ha
  rw [transfer_eq_carry, after_bind]
  cases outcome (route endpoint target) a with
  | error e => exact level_of_claimed hsame n
  | ok r =>
    have hcarry := level_carry hs endpoint payload timeout r n
    rwa [level_of_claimed hsame n] at hcarry

end

end SerialBus.Levels
