import SerialBus.Proofs.Claims.Once
import SerialBus.Proofs.Loopback.Beside

/-! Devices that share a loopback bus. Whatever the others do, each of them gives and becomes what it
would give and become with the bus to itself, but for the numbers of its handles. -/
namespace SerialBus

open SerialBus.Action Device Session Custody
open Loopback (Bus)
open Loopback.Bus (Alike Beside Foreign Spares)

/-- Devices on one bus, told apart by their numbers. -/
structure Fleet where
  device : DeviceId → Device
  bus : Bus

namespace Fleet

/-- New devices on a new bus. -/
def start (specs : List Loopback.Device) (descriptor : DeviceId → DeviceDescriptor) : Fleet where
  device id := { id, descriptor := descriptor id }
  bus := .ofDevices specs

/-- One of the devices, as it is on the bus. -/
def member (f : Fleet) (id : DeviceId) : Attachment Bus := ⟨f.device id, f.bus⟩

/-- The fleet after one of its devices was used. -/
def step (f : Fleet) (id : DeviceId) (u : Use) : Fleet where
  device i := if i = id then (after u.given (f.member id)).device else f.device i
  bus := (after u.given (f.member id)).bus

def run (f : Fleet) (events : List (DeviceId × Use)) : Fleet :=
  events.foldl (fun f e => f.step e.1 e.2) f

/-- What one of the devices gives in the course of a run. -/
def results (id : DeviceId) : Fleet → List (DeviceId × Use) →
    List (Except UsbError (Option View × Option Reply))
  | _, [] => []
  | f, e :: rest =>
    if e.1 = id then outcome e.2.given (f.member id) :: results id (f.step e.1 e.2) rest
    else results id (f.step e.1 e.2) rest

/-- The uses of one device, without those of all others. -/
def alone (id : DeviceId) (events : List (DeviceId × Use)) : List (DeviceId × Use) :=
  events.filter fun e => e.1 = id

section

variable {f g : Fleet} {id i : DeviceId} {u : Use}

theorem member_step_self : (f.step id u).member id = after u.given (f.member id) := by
  simp only [member, step, if_pos]

theorem device_step_of_ne (h : i ≠ id) : (f.step id u).device i = f.device i := if_neg h

theorem alone_cons_self (rest : List (DeviceId × Use)) :
    alone id ((id, u) :: rest) = (id, u) :: alone id rest := by
  rw [alone, List.filter_cons_of_pos (by simp), alone]

theorem alone_cons_of_ne (h : id ≠ i) (rest : List (DeviceId × Use)) :
    alone i ((id, u) :: rest) = alone i rest := by
  rw [alone, List.filter_cons_of_neg (by simpa using h), alone]

end

/-! A device on the shared bus and on its own one. -/

section

variable {ρ : HandleId → HandleId} {id : DeviceId} {b₀ : Bus}

/-- The same device on both buses, numbered by `ρ` on the shared one, which was `b₀` before. -/
structure Paired (ρ : HandleId → HandleId) (id : DeviceId) (b₀ : Bus) (s t : Attachment Bus) :
    Prop where
  device : s.device = t.device.renumbered ρ
  itself : t.device.id = id
  bus : Beside ρ id b₀ s.bus t.bus

theorem paired_act (hρ : Function.Injective ρ) (d : Device) {α : Type} (op : Operation α)
    (ho : op.opens = false) :
    Simulates (On ρ (Paired ρ id b₀) d) ((op.renumbered ρ).act : Action Bus α) op.act := by
  intro b c h
  obtain ⟨hout, hafter⟩ := Bus.beside_act hρ op ho b c h.bus
  exact ⟨hout, rfl, h.itself, hafter⟩

theorem elementary_paired (hρ : Function.Injective ρ) : Elementary ρ (Paired ρ id b₀) where
  name := rfl
  device h := h.device
  openDevice d b c h := by
    obtain rfl : d.id = id := h.itself
    obtain ⟨hout, hafter⟩ := Bus.beside_openDevice hρ b c h.bus
    exact ⟨hout, rfl, rfl, hafter⟩
  bus d _ op _ _ ho := paired_act hρ d op ho
  modify f g hfg hid s t h := by
    refine ⟨rfl, ?_, (hid _).trans h.itself, h.bus⟩
    rw [after_modifyDevice, after_modifyDevice]
    exact (congrArg f h.device).trans (hfg t.device)
  claim d h number := paired_act hρ d (.claimInterface h number) rfl

/-- A device gives the same on both buses, and the buses stay the same to it. -/
theorem paired_given (hρ : Function.Injective ρ) (u : Use) :
    Simulates (Paired ρ id b₀) u.given u.given := by
  have hE : Elementary ρ (Paired ρ id b₀) := elementary_paired hρ
  have hT : TransfersInStep ρ (Paired ρ id b₀) := fun d {_} op hd => paired_act hρ d op (by
    cases op <;> first | rfl | cases hd)
  have htransfer := hE.inStep.transfer hT
  exact simulates_given hE.inStep.whole (fun _ _ _ _ => htransfer _ _ _ _) u
    (fun _ _ _ _ _ => htransfer _ _ _ _) (fun _ => hE.reset) fun _ _ _ _ =>
      hE.inStep.controlTransfer _ _ _

end

/-! All devices at once. -/

/-- The numbers that `ρ` gives to the handles below `first`, and consecutive ones from `next` on to
the others. -/
def continued (ρ : HandleId → HandleId) (first next : Nat) (h : HandleId) : HandleId :=
  if h.number < first then ρ h else ⟨next + (h.number - first)⟩

/-- A device on the bus that it shares is what it is on the bus of the fleet `g`, where it is used
alone. It opens the same handles in the same order, with the numbers that `ρ` gives. -/
structure AsAlone (f : Fleet) (id : DeviceId) (g : Fleet) (ρ : HandleId → HandleId) : Prop where
  device : f.device id = (g.device id).renumbered ρ
  itself : (g.device id).id = id
  alike : Alike ρ id f.bus g.bus
  owned : Owned (g.device id) g.bus
  increasing : ∀ h k, h.number < k.number → (ρ h).number < (ρ k).number

namespace AsAlone

variable {f g : Fleet} {id : DeviceId} {ρ : HandleId → HandleId} (hs : AsAlone f id g ρ)

include hs

theorem injective : Function.Injective ρ := by
  intro h k heq
  have hnumber := congrArg HandleId.number heq
  rcases Nat.lt_trichotomy h.number k.number with hlt | hsame | hlt
  · exact absurd hnumber (Nat.ne_of_lt (hs.increasing h k hlt))
  · cases h
    cases k
    exact congrArg HandleId.mk hsame
  · exact absurd hnumber (Nat.ne_of_gt (hs.increasing k h hlt))

theorem allocated : Allocated g.bus := by
  intro h hh
  obtain ⟨v, hv⟩ := Option.isSome_iff_exists.1 hh
  obtain ⟨held, hget, -⟩ := Bus.owner_eq_some.1 hv
  exact (hs.alike.owned h held hget).2

/-- Handles that were opened have numbers below the next one. -/
theorem below {h : HandleId} (hh : h.number < g.bus.nextHandle) :
    (ρ h).number < f.bus.nextHandle := by
  have hnext : ρ ⟨g.bus.nextHandle⟩ = ⟨f.bus.nextHandle⟩ := hs.alike.next 0
  have hlt := hs.increasing h ⟨g.bus.nextHandle⟩ hh
  rwa [hnext] at hlt

/-- The device gives on the shared bus what it gives alone. -/
theorem given (u : Use) : outcome u.given (f.member id) = outcome u.given (g.member id) ∧
    AsAlone (f.step id u) id (g.step id u) ρ ∧ Spares id f.bus (f.step id u).bus := by
  obtain ⟨hout, hp⟩ := paired_given hs.injective u (f.member id) (g.member id)
    ⟨hs.device, hs.itself, hs.alike.beside⟩
  have hcustody := custody_use u (g.member id) hs.allocated hs.owned
  rw [Use.perform_eq, after_bind_pure, ← member_step_self] at hcustody
  rw [← member_step_self, ← member_step_self] at hp
  exact ⟨hout, ⟨hp.device, hp.itself, hp.bus.alike, hcustody.2.1, hs.increasing⟩,
    hp.bus.spares⟩

/-- While another device is used, the shared bus stays what it is to this one. -/
theorem alike_other {b c : Bus} {j : DeviceId} {τ : HandleId → HandleId} (hj : id ≠ j)
    (hb : Spares j f.bus b) (hc : Alike τ j b c) :
    Alike (continued ρ g.bus.nextHandle b.nextHandle) id b g.bus where
  failures := hb.failures.trans hs.alike.failures
  specs := hb.specs.trans hs.alike.specs
  state := (hb.states id hj).trans hs.alike.state
  handles h := by
    unfold continued
    split
    next hlt =>
      have hforeign : Foreign j f.bus (ρ h) := by
        refine ⟨hs.below hlt, fun held hget => ?_⟩
        rw [hs.alike.handles] at hget
        rw [(hs.alike.owned h held hget).1]
        exact hj
      rw [hb.handles _ hforeign]
      exact hs.alike.handles h
    next hge =>
      -- Neither side has opened these yet.
      rw [← hc.next, hc.handles, hc.unopened (Nat.le_add_right _ _)]
      exact (hs.alike.unopened (Nat.le_of_not_lt hge)).symm
  owned := hs.alike.owned
  next n := by
    rw [continued, if_neg (Nat.not_lt.2 (Nat.le_add_right _ _)), Nat.add_sub_cancel_left]

theorem increasing_continued {next : Nat} (hn : f.bus.nextHandle ≤ next) (h k : HandleId)
    (hlt : h.number < k.number) :
    (continued ρ g.bus.nextHandle next h).number <
      (continued ρ g.bus.nextHandle next k).number := by
  unfold continued
  split
  next hh =>
    split
    next => exact hs.increasing h k hlt
    next =>
      have hgrown := Nat.lt_of_lt_of_le (hs.below hh) hn
      exact Nat.lt_of_lt_of_le hgrown (Nat.le_add_right _ _)
  next hh =>
    rw [if_neg (Nat.not_lt.2 (Nat.le_trans (Nat.le_of_not_lt hh) (Nat.le_of_lt hlt)))]
    change next + (h.number - _) < next + (k.number - _)
    omega

/-- The device keeps the number that its handle was given. -/
theorem renumbered_continued (next : Nat) :
    (g.device id).renumbered (continued ρ g.bus.nextHandle next) = (g.device id).renumbered ρ := by
  have hsame : (g.device id).held.handle.map (continued ρ g.bus.nextHandle next) =
      (g.device id).held.handle.map ρ := by
    cases hh : (g.device id).held.handle with
    | none => rfl
    | some h => exact congrArg some (if_pos (lt_of_owned hs.allocated hs.owned hh))
  rw [Device.renumbered, Device.renumbered, Holdings.renumbered, Holdings.renumbered, hsame]

/-- The use of another device is nothing to this one, but for the numbers of handles to come. -/
theorem other {j : DeviceId} (hj : id ≠ j) {u : Use} {c : Bus} {τ : HandleId → HandleId}
    (hb : Spares j f.bus (f.step j u).bus) (hc : Alike τ j (f.step j u).bus c) :
    AsAlone (f.step j u) id g (continued ρ g.bus.nextHandle (f.step j u).bus.nextHandle) := by
  refine ⟨?_, hs.itself, hs.alike_other hj hb hc, hs.owned, hs.increasing_continued hb.next⟩
  rw [device_step_of_ne hj, hs.renumbered_continued]
  exact hs.device

end AsAlone

/-- Each device is on the bus of `f` what it is alone on the bus of its own fleet in `g`. -/
def Together (f : Fleet) (g : DeviceId → Fleet) : Prop := ∀ i, ∃ ρ, AsAlone f i (g i) ρ

theorem together_start (specs : List Loopback.Device)
    (descriptor : DeviceId → DeviceDescriptor) :
    Together (start specs descriptor) fun _ => start specs descriptor := fun i =>
  ⟨.same, {
    device := ((start specs descriptor).device i).renumbered_same.symm
    itself := rfl
    alike := ⟨rfl, rfl, rfl, fun _ => rfl, nofun, fun _ => rfl⟩
    owned := owned_atStart specs i (descriptor i)
    increasing := fun _ _ hlt => hlt }⟩

section

variable {f : Fleet} {g : DeviceId → Fleet} (ht : Together f g)

include ht

/-- With each use all devices stay together, where only the one that is used goes on alone. -/
theorem Together.step (j : DeviceId) (u : Use) :
    Together (f.step j u) fun i => (g i).run (alone i [(j, u)]) := by
  obtain ⟨ρ, hj⟩ := ht j
  obtain ⟨-, hself, hspares⟩ := hj.given u
  intro i
  dsimp only
  by_cases hi : i = j
  · subst hi
    rw [alone_cons_self]
    exact ⟨ρ, hself⟩
  · obtain ⟨ρ', hs⟩ := ht i
    rw [alone_cons_of_ne (Ne.symm hi)]
    exact ⟨_, hs.other hi hspares hself.alike⟩

theorem Together.run (events : List (DeviceId × Use)) :
    (Together (f.run events) fun i => (g i).run (alone i events)) ∧
      ∀ i, results i f events = results i (g i) (alone i events) := by
  induction events generalizing f g with
  | nil => exact ⟨ht, fun _ => rfl⟩
  | cons e rest ih =>
    obtain ⟨j, u⟩ := e
    obtain ⟨hrun, hresults⟩ := ih (ht.step j u)
    refine ⟨fun i => ?_, fun i => ?_⟩
    · have hsplit : alone i ((j, u) :: rest) = alone i [(j, u)] ++ alone i rest :=
        List.filter_append [(j, u)] rest
      have hgoes : (g i).run (alone i ((j, u) :: rest)) =
          ((g i).run (alone i [(j, u)])).run (alone i rest) := by
        rw [hsplit]
        exact List.foldl_append
      obtain ⟨ρ, hi⟩ := hrun i
      dsimp only at hi ⊢
      rw [hgoes]
      exact ⟨ρ, hi⟩
    · by_cases hi : j = i
      · subst hi
        obtain ⟨ρ, hs⟩ := ht j
        have hrest := hresults j
        rw [alone_cons_self] at hrest
        rw [alone_cons_self, results, results, if_pos rfl, if_pos rfl, (hs.given u).1, hrest]
        rfl
      · have hrest := hresults i
        rw [alone_cons_of_ne hi] at hrest
        rw [alone_cons_of_ne hi, results, if_neg hi, hrest]
        rfl

end

/-- However the uses of devices on a bus are mixed, each device gives what it gives if it is used
alone on a bus of its own, holds and remembers the same in the end, and is in the same state on the
bus. Only the numbers of handles may be others. -/
theorem each_as_alone (specs : List Loopback.Device) (descriptor : DeviceId → DeviceDescriptor)
    (events : List (DeviceId × Use)) (id : DeviceId) :
    let new := start specs descriptor
    let shared := new.run events
    let own := new.run (alone id events)
    results id new events = results id new (alone id events) ∧
      (shared.device id).unnumbered = (own.device id).unnumbered ∧
      shared.bus.device? id = own.bus.device? id ∧
      ∀ h, (shared.device id).held.handle = some h →
        ∃ k, (own.device id).held.handle = some k ∧
          shared.bus.handles.get? h = own.bus.handles.get? k := by
  intro new shared own
  obtain ⟨hrun, hresults⟩ := (together_start specs descriptor).run events
  obtain ⟨ρ, hs⟩ := hrun id
  have hdevice : shared.device id = (own.device id).renumbered ρ := hs.device
  refine ⟨hresults id, ?_, hs.alike.state, fun h hh => ?_⟩
  · rw [hdevice, Device.unnumbered_renumbered]
  · rw [hdevice] at hh
    obtain ⟨k, hk, rfl⟩ := Option.map_eq_some_iff.1 hh
    exact ⟨k, hk, hs.alike.handles k⟩

/-- The second device to open a handle has another number than alone, and nothing else. -/
example :
    let spec := Loopback.Device.ofDescriptor {}
    let new := start [spec, spec] fun _ => spec.descriptor
    let events := [(⟨0⟩, .call (.clearHalt 0x81)), (⟨1⟩, .call (.clearHalt 0x81))]
    ((new.run events).device ⟨1⟩).held.handle = some ⟨2⟩ ∧
      ((new.run (alone ⟨1⟩ events)).device ⟨1⟩).held.handle = some ⟨1⟩ := by
  decide +kernel

end Fleet

end SerialBus
