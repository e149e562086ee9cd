import SerialBus.Proofs.Claims.Disposal

/-! The requests that a device serves from what it holds, and the devices that they lead to on a bus
of any kind. On such a device each claim counts at least once. -/
namespace SerialBus.Requests

open SerialBus.Action Device Session

variable {σ τ α β : Type}

/-- The requests that a device serves from what it holds, by the type of their result. -/
inductive Request : Type → Type
  | openHandle : Request HandleId
  | setConfiguration (value : Option UInt8) : Request Unit
  | activeConfiguration : Request (UInt8 × ConfigurationDescriptor)
  | findInterface (target : InterfaceTarget) : Request InterfaceLocation
  | claim (target : InterfaceTarget) : Request Unit
  | ensureClaimed (target : InterfaceTarget) : Request Unit
  | release (target : InterfaceTarget) : Request Unit
  | setAlternate (target : InterfaceTarget) (alternate : Option UInt8) : Request Unit
  | endpointType (address : UInt8) (location : InterfaceLocation) : Request TransferType

namespace Request

def act [Backend σ] : Request α → DeviceAction σ α
  | openHandle => Device.openHandle
  | setConfiguration value => Device.setConfiguration value
  | activeConfiguration => Device.activeConfiguration
  | findInterface target => Device.findInterface target
  | claim target => Device.claim target
  | ensureClaimed target => Device.ensureClaimed target
  | release target => Device.release target
  | setAlternate target alternate => Device.setAlternate target alternate
  | endpointType address location => Device.endpointType address location

/-- The target of a request that has to find an interface. -/
def sought? : Request α → Option InterfaceTarget
  | findInterface target | setAlternate target _ => some target
  | _ => none

/-- The target of a request that selects an alternate. -/
def selected? : Request α → Option InterfaceTarget
  | setAlternate target _ => some target
  | _ => none

theorem sought?_of_selected? {r : Request α} {target : InterfaceTarget}
    (h : r.selected? = some target) : r.sought? = some target := by
  cases r <;> first | exact h | cases h

/-- Each request is in step with itself where the steps are that it is made of. -/
theorem inStep [Backend σ] [Backend τ] {P : Attachment σ → Attachment τ → Prop}
    (hP : InStep .same P) (r : Request α) : Simulates P r.act r.act := by
  cases r with
  | openHandle => exact (simulates_map_iff fun _ => rfl).1 hP.openHandle
  | setConfiguration value => exact hP.setConfiguration value
  | activeConfiguration => exact hP.activeConfiguration
  | findInterface target => exact hP.whole.findInterface target
  | claim target => exact hP.whole.claim target
  | ensureClaimed target => exact hP.whole.ensureClaimed target
  | release target => exact hP.whole.giveBack target
  | setAlternate target alternate => exact hP.whole.setAlternate target alternate
  | endpointType address location => exact hP.endpointType address location

end Request

/-! Each claim that is counted counts at least once. -/

def Counted (d : Device) : Prop := ∀ n level, d.held.claimed.get? n = some level → 1 ≤ level

theorem Counted.of_unclaimed {d : Device} (h : d.held.claimed = ∅) : Counted d := by
  intro n level hl
  rw [h] at hl
  cases hl

theorem Counted.insert {d : Device} (hd : Counted d) {number : UInt8} {level : Nat}
    (hlevel : 1 ≤ level) :
    Counted { d with held :=
      { d.held with claimed := d.held.claimed.insert number level } } := by
  intro n k hk
  by_cases hn : number = n
  · subst hn
    have hnew := Table.get?_insert_self.symm.trans hk
    cases hnew
    exact hlevel
  · exact hd n k ((Table.get?_insert_of_ne hn).symm.trans hk)

theorem Counted.erase {d : Device} (hd : Counted d) (number : UInt8) :
    Counted { d with held := { d.held with claimed := d.held.claimed.erase number } } := by
  intro n k hk
  by_cases hn : number = n
  · subst hn
    have hgone := Table.get?_erase_self.symm.trans hk
    cases hgone
  · exact hd n k ((Table.get?_erase_of_ne hn).symm.trans hk)

/-- Devices whose claims count go on so. -/
def counting (σ : Type) : Evolution (Attachment σ) where
  rel a e := Counted a.device → Counted e.device
  refl _ := id
  trans h g := g ∘ h

theorem counting_onBus (d : Device) (act : Action σ α) : Keeps ((counting σ).onBus d) act :=
  fun _ h => h

theorem counting_modify {f : Device → Device} (hf : ∀ d, Counted d → Counted (f d)) :
    Keeps (counting σ) (modifyDevice f) := fun a => hf a.device

theorem counting_remember {f : Holdings → Holdings} (hf : RemembersOnly f) :
    Keeps (counting σ) (modifyHeld f) := by
  apply counting_modify
  intro d hd n level hl
  rw [hf.claimed] at hl
  exact hd n level hl

variable [Backend σ]

theorem counting_openHandle : Keeps (counting σ) (openHandle : DeviceAction σ HandleId) := by
  apply keeps_opening
  intro a hh ha
  rw [after_openHandle_of_none hh]
  cases outcome (Backend.openDevice a.device.id : Action σ HandleId) a.bus <;> exact ha

theorem counting_acquire (number : UInt8) {level : Nat → Nat} (hl : ∀ n, 1 ≤ level n) :
    Keeps (counting σ) (acquire number level : DeviceAction σ Unit) := by
  have honce : ∀ h, Keeps (counting σ) (claimOnce h number : DeviceAction σ PUnit) := by
    intro h a
    change Counted a.device → Counted (after (claimOnce h number) a).device
    rw [device_after_claimOnce]
    exact id
  have hcount : Keeps (counting σ) (modifyHeld fun held => { held with
      claimed := held.claimed.insert number (level ((held.claimed.get? number).getD 0)) }) :=
    counting_modify fun d hd => hd.insert (hl _)
  rw [acquire_eq]
  exact counting_openHandle.bind fun h => (honce h).bind fun _ => hcount

theorem counting_release (number : UInt8) :
    Keeps (counting σ) (release (.number number) : DeviceAction σ Unit) := by
  apply (keeps_pure number).bind
  intro n
  apply keeps_getHeld.bind
  intro held
  cases held.claimed.get? n with
  | none => exact keeps_pure _
  | some level =>
    by_cases h1 : 1 < level
    · simp only [if_pos h1]
      exact counting_modify fun d hd => hd.insert (Nat.le_sub_one_of_lt h1)
    · simp only [if_neg h1]
      apply counting_openHandle.bind
      intro h
      apply (Keeps.onBus fun d => counting_onBus d _).bind
      intro _
      exact counting_modify fun d hd => hd.erase n

theorem counting_closeHandle : Keeps (counting σ) (closeHandle : DeviceAction σ Unit) := by
  intro a
  cases hh : a.device.held.handle with
  | none =>
    rw [(eq_ok_iff.1 (closeHandle_of_none hh)).2]
    exact (counting σ).refl a
  | some h =>
    rw [after_congr (closeHandle_of_some hh), after_onBus]
    exact fun _ => Counted.of_unclaimed rfl

theorem counting_dispose (close : Bool) :
    Keeps (counting σ) (dispose close : DeviceAction σ Unit) := by
  apply keeps_disposal
  · exact counting_modify fun d _ => Counted.of_unclaimed rfl
  · exact fun d h _ => counting_onBus d (Backend.releaseInterface h _)
  · exact counting_closeHandle
  · exact counting_remember ⟨fun _ _ => rfl, fun _ => rfl⟩

theorem parts_counting : KeepsParts (counting σ) where
  bus d {_} op _ := counting_onBus d op.act
  remember hf := counting_remember hf
  setTimeout _ := counting_modify fun _ hd => hd
  openHandle := counting_openHandle
  acquire number {_} hl := counting_acquire number hl
  release := counting_release
  dispose := counting_dispose true

/-- The devices that requests and disposals lead to, on buses that may change in any way between
them. -/
inductive Reached : Attachment σ → Prop
  | fresh (id : DeviceId) (descriptor : DeviceDescriptor) (bus : σ) :
    Reached ⟨{ id, descriptor }, bus⟩
  | requested {a : Attachment σ} {α : Type} (r : Request α) : Reached a → Reached (after r.act a)
  | closed {a : Attachment σ} : Reached a → Reached (after closeHandle a)
  | disposed {a : Attachment σ} (close : Bool) : Reached a → Reached (after (dispose close) a)
  | timed {a : Attachment σ} (ms : Nat) :
    Reached a → Reached ⟨{ a.device with defaultTimeout := ms }, a.bus⟩
  | changed {a : Attachment σ} (bus : σ) : Reached a → Reached ⟨a.device, bus⟩

theorem Reached.counted {a : Attachment σ} (h : Reached a) : Counted a.device := by
  induction h with
  | fresh id descriptor bus => exact Counted.of_unclaimed rfl
  | requested r _ ih =>
    have hkeeps := keeps_of_simulates fun b : Attachment σ =>
      r.inStep (parts_counting.inStep b)
    exact hkeeps _ ih
  | closed _ ih => exact counting_closeHandle _ ih
  | disposed close _ ih => exact counting_dispose close _ ih
  | timed ms _ ih => exact ih
  | changed bus _ ih => exact ih

end SerialBus.Requests
