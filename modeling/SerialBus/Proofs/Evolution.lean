import SerialBus.Proofs.Device.Effects
import SerialBus.Proofs.Device.InStep

/-! How a state may evolve: a relation between earlier and later states that a sequence of
operations keeps if each of them does, however they fail and wherever they stop. -/
namespace SerialBus

open SerialBus.Action

structure Evolution (σ : Type) where
  rel : σ → σ → Prop
  refl : ∀ s, rel s s
  trans : ∀ {s t u}, rel s t → rel t u → rel s u

variable {σ ρ α β : Type}

/-- What may happen to the bus of a device while the device itself stays as it is. -/
def Evolution.onBus (R : Evolution (Attachment σ)) (d : Device) : Evolution σ where
  rel s t := R.rel ⟨d, s⟩ ⟨d, t⟩
  refl _ := R.refl _
  trans h k := R.trans h k

/-- Whatever the operation returns, the state before it may evolve into the state after it. -/
def Keeps (R : Evolution σ) (act : Action σ α) : Prop := ∀ s, R.rel s (after act s)

section

variable {R : Evolution σ}

theorem Keeps.mono {S : Evolution σ} {act : Action σ α} (h : Keeps R act)
    (hs : ∀ s t, R.rel s t → S.rel s t) : Keeps S act := fun s => hs _ _ (h s)

theorem keeps_pure (a : α) : Keeps R (pure a) := R.refl

theorem keeps_liftResult (r : Except UsbError α) : Keeps R (liftResult r) := fun s => by
  simpa using R.refl s

theorem Keeps.attempted {act : Action σ α} (h : Keeps R act) : Keeps R (attempt act) := fun s => by
  simpa using h s

/-- The second operation need keep the relation only from where the first one leads to. -/
theorem Keeps.bindFrom {x : Action σ α} {f : α → Action σ β} (hx : Keeps R x)
    (hf : ∀ s a, outcome x s = .ok a → R.rel (after x s) (after (f a) (after x s))) :
    Keeps R (x >>= f) := by
  intro s
  rw [after_bind]
  cases hr : outcome x s with
  | error e => exact hx s
  | ok a => exact R.trans (hx s) (hf s a hr)

theorem Keeps.bind {x : Action σ α} {f : α → Action σ β} (hx : Keeps R x)
    (hf : ∀ a, Keeps R (f a)) : Keeps R (x >>= f) :=
  hx.bindFrom fun s a _ => hf a (after x s)

theorem keeps_ite {c : Prop} [Decidable c] {x y : Action σ α} (hx : Keeps R x) (hy : Keeps R y) :
    Keeps R (if c then x else y) := by
  split <;> assumption

end

/-- The states that `s` may evolve into, each related to itself. -/
def Evolution.from (R : Evolution σ) (s : σ) : σ → σ → Prop := fun t u => t = u ∧ R.rel s t

variable {R : Evolution σ}

theorem Keeps.simulates {act : Action σ α} (h : Keeps R act) (s : σ) :
    Simulates (R.from s) act act := by
  rintro t _ ⟨rfl, ht⟩
  exact ⟨rfl, rfl, R.trans ht (h t)⟩

theorem keeps_of_simulates {act : Action σ α} (h : ∀ s, Simulates (R.from s) act act) :
    Keeps R act := fun s => (h s s s ⟨rfl, R.refl s⟩).2.2

theorem device_of_from {R : Evolution (Attachment σ)} {a s t : Attachment σ}
    (h : R.from a s t) : s.device = t.device.renumbered .same := by
  rw [h.1, Device.renumbered_same]

/-- What an operation of the bus keeps for a device, it keeps wherever it is used. -/
theorem Keeps.simulates_on [Backend σ] {R : Evolution (Attachment σ)} {d : Device}
    {op : Operation α} (h : Keeps (R.onBus d) op.act) (a : Attachment σ) :
    Simulates (Device.On .same (R.from a) d) (op.renumbered .same).act op.act := by
  rw [op.renumbered_same]
  rintro s t ⟨heq, hs⟩
  rw [d.renumbered_same] at heq hs
  cases heq
  refine ⟨rfl, ?_⟩
  rw [Device.On, d.renumbered_same]
  exact ⟨rfl, R.trans hs (h s)⟩

theorem Keeps.simulates_opening [Backend σ] {R : Evolution (Attachment σ)}
    (h : Keeps R (Device.openHandle : DeviceAction σ HandleId)) (a : Attachment σ) :
    Simulates (R.from a) Device.openHandle (HandleId.same <$> Device.openHandle) :=
  (simulates_map_iff fun _ => rfl).2 (h.simulates a)

section

variable [Backend σ] {R : Evolution (Attachment σ)}

theorem plain_of_keeps (h : ∀ d {α : Type} (op : Operation α), op.isQuiet → op.selects = false →
    op.isStandard → Keeps (R.onBus d) op.act) (a : Attachment σ) :
    Device.Plain .same (R.from a) where
  name := rfl
  device := device_of_from
  bus d _ op hq hs hk := (h d op hq hs hk).simulates_on a

/-- What all operations but resets are put together from keeps the relation. -/
structure KeepsParts (R : Evolution (Attachment σ)) : Prop where
  bus : ∀ d {α : Type} (op : Operation α), op.changesOwners = false → Keeps (R.onBus d) op.act
  remember : ∀ {f}, Device.RemembersOnly f → Keeps R (modifyHeld f)
  setTimeout : ∀ n : Nat, Keeps R (modifyDevice ({ · with defaultTimeout := n }))
  openHandle : Keeps R Device.openHandle
  acquire : ∀ number {level}, (∀ n, 1 ≤ level n) → Keeps R (Device.acquire number level)
  release : ∀ number, Keeps R (Device.release (.number number))
  dispose : Keeps R (Device.dispose true)

theorem KeepsParts.inStep (h : KeepsParts R) (a : Attachment σ) :
    Device.InStep .same (R.from a) where
  name := rfl
  device := device_of_from
  bus d _ op hq := (h.bus d op (Operation.isQuiet_iff.1 hq).1).simulates_on a
  remember _ hf := (h.remember hf).simulates a
  setTimeout n := (h.setTimeout n).simulates a
  openHandle := h.openHandle.simulates_opening a
  acquire number _ hl := (h.acquire number hl).simulates a
  release number := (h.release number).simulates a
  dispose := h.dispose.simulates a

theorem KeepsParts.transfers (h : KeepsParts R) (a : Attachment σ) :
    Device.TransfersInStep .same (R.from a) := fun d {_} op hd =>
  (h.bus d op (Operation.changesOwners_of_movesData hd)).simulates_on a

end

theorem Keeps.onBus {R : Evolution (Attachment σ)} {act : Action σ α}
    (h : ∀ d, Keeps (R.onBus d) act) : Keeps R (onBus act) := fun a => by
  rw [after_onBus]
  exact h a.device a.bus

theorem keeps_getHeld {R : Evolution (Attachment σ)} : Keeps R (getHeld : DeviceAction σ Holdings) :=
  R.refl

theorem keeps_getDevice {R : Evolution (Attachment σ)} : Keeps R (getDevice : DeviceAction σ Device) :=
  R.refl

/-! Claims, releases and disposals, from the steps that they are made of. -/

section

variable [Backend σ]

/-- A handle is only opened if there is none. -/
theorem keeps_opening {R : Evolution (Attachment σ)} (h : ∀ a : Attachment σ,
    a.device.held.handle = none → R.rel a (after Device.openHandle a)) :
    Keeps R (Device.openHandle : DeviceAction σ HandleId) := by
  intro a
  cases hh : a.device.held.handle with
  | some i =>
    rw [(eq_ok_iff.1 (Device.openHandle_of_some hh)).2]
    exact R.refl a
  | none => exact h a hh

/-- A control transfer keeps what opening a handle and the control transfer of the bus keep. -/
theorem keeps_controlTransfer {R : Evolution (Attachment σ)} {setup : Setup}
    (hopen : Keeps R (Device.openHandle : DeviceAction σ HandleId))
    (hbus : ∀ d h payload ms,
      Keeps (R.onBus d) (Backend.controlTransfer h setup payload ms : Action σ Transferred))
    (data : ControlData) (timeout : Option Nat) :
    Keeps R (Device.controlTransfer setup data timeout : DeviceAction σ Transferred) :=
  (keeps_liftResult _).bind fun payload => hopen.bind fun h =>
    (keeps_getDevice.bind fun _ => keeps_pure _).bind fun ms =>
      Keeps.onBus fun d => hbus d h payload ms

theorem keeps_acquisition {R : Evolution (Attachment σ)} {number : UInt8}
    (hopen : Keeps R (Device.openHandle : DeviceAction σ HandleId))
    (hclaim : ∀ d h, Keeps (R.onBus d) (Backend.claimInterface h number : Action σ Unit))
    (hcount : ∀ f : Holdings → Table UInt8 Nat,
      Keeps R (modifyHeld fun held => { held with claimed := f held }))
    (level : Nat → Nat) : Keeps R (Device.acquire number level : DeviceAction σ Unit) := by
  have honce : ∀ h, Keeps R (Device.claimOnce h number : DeviceAction σ PUnit) := by
    intro h
    apply keeps_getHeld.bind
    intro held
    exact keeps_ite (Keeps.onBus fun d => hclaim d h) (keeps_pure _)
  rw [Device.acquire_eq]
  exact hopen.bind fun h => (honce h).bind fun _ => hcount _

/-- An interface is given back on the handle that the device has then. -/
theorem keeps_giveBack {R : Evolution (Attachment σ)}
    (hopen : Keeps R (Device.openHandle : DeviceAction σ HandleId))
    (hrelease : ∀ d h number, d.held.handle = some h →
      Keeps (R.onBus d) (Backend.releaseInterface h number : Action σ Unit))
    (hcount : ∀ f : Holdings → Table UInt8 Nat,
      Keeps R (modifyHeld fun held => { held with claimed := f held })) (number : UInt8) :
    Keeps R (Device.release (.number number) : DeviceAction σ Unit) := by
  have hlast : ∀ n, Keeps R (Device.openHandle >>= fun h =>
      onBus (Backend.releaseInterface h n) >>= fun _ => modifyHeld fun held =>
        { held with claimed := held.claimed.erase n } : DeviceAction σ Unit) := by
    intro n
    apply hopen.bindFrom
    intro s h ho
    have hh := Device.handle_after_openHandle ho
    have hone : R.rel (after Device.openHandle s)
        (after (onBus (Backend.releaseInterface h n)) (after Device.openHandle s)) := by
      rw [after_onBus]
      exact hrelease _ h n hh _
    rw [after_bind]
    cases outcome (onBus (Backend.releaseInterface h n)) (after Device.openHandle s) with
    | error e => exact hone
    | ok u => exact R.trans hone (hcount _ _)
  refine (keeps_pure number).bind fun n => keeps_getHeld.bind fun held => ?_
  cases held.claimed.get? n with
  | none => exact keeps_pure _
  | some level => exact keeps_ite (hcount _) (hlast n)

theorem keeps_releases {R : Evolution σ} {h : HandleId}
    (hrelease : ∀ number, Keeps R (Backend.releaseInterface h number : Action σ Unit))
    (numbers : List UInt8) : Keeps R (Device.releaseEach h numbers) := by
  induction numbers with
  | nil => exact keeps_pure _
  | cons number rest ih =>
    refine (hrelease number).attempted.bind fun first => ih.bind fun later => ?_
    cases first with
    | error e => exact keeps_pure _
    | ok u => exact keeps_pure _

theorem keeps_disposal {R : Evolution (Attachment σ)}
    (hunclaim : Keeps R (modifyHeld ({ · with claimed := ∅ })))
    (hrelease : ∀ d h number,
      Keeps (R.onBus d) (Backend.releaseInterface h number : Action σ Unit))
    (hclose : Keeps R (Device.closeHandle : DeviceAction σ Unit))
    (hforget : Keeps R
      (modifyHeld ({ · with activeConfig := none, alternates := ∅, endpointTypes := ∅ })))
    (close : Bool) : Keeps R (Device.dispose close : DeviceAction σ Unit) := by
  have hreleased : Keeps R (Device.releaseAll : DeviceAction σ (Option UsbError)) := by
    refine keeps_getHeld.bind fun held => hunclaim.bind fun _ => ?_
    cases held.handle with
    | none => exact keeps_pure _
    | some h => exact Keeps.onBus fun d => keeps_releases (hrelease d h) held.claimed.keys
  have hclosed : Keeps R (Device.closeIf close : DeviceAction σ _) :=
    keeps_ite hclose.attempted (keeps_pure _)
  rw [Device.dispose_eq]
  exact hreleased.bind fun released => hclosed.bind fun closed => hforget.bind fun _ =>
    keeps_liftResult _

end

end SerialBus
