import SerialBus.Proofs.Device.InStep

/-! All operations of a device but transfers are made of a few kinds of steps: what holds of these
holds of all of them. What opens a handle and gives back what is held does without claims. -/
namespace SerialBus.Device

open SerialBus.Action

variable {σ τ α : Type} [Backend σ] [Backend τ]

/-- The steps that operations without claims and data transfers are made of, in step. -/
structure Unclaiming (ρ : HandleId → HandleId) (P : Attachment σ → Attachment τ → Prop) : Prop where
  name : Backend.name σ = Backend.name τ
  device : ∀ {s t}, P s t → s.device = t.device.renumbered ρ
  openDevice : ∀ d, Simulates (On ρ P d) (Backend.openDevice d.id) (ρ <$> Backend.openDevice d.id)
  bus : ∀ d {α : Type} (op : Operation α), op.movesData = false → op.isClaim = false →
    op.opens = false → Simulates (On ρ P d) (op.renumbered ρ).act op.act
  modify : ∀ f g, (∀ d, f (d.renumbered ρ) = (g d).renumbered ρ) → (∀ d, (g d).id = d.id) →
    Simulates P (modifyDevice f) (modifyDevice g)

/-- The steps that all operations but data transfers are made of, in step. -/
structure Elementary (ρ : HandleId → HandleId) (P : Attachment σ → Attachment τ → Prop) : Prop
    extends Unclaiming ρ P where
  claim : ∀ d h number, Simulates (On ρ P d) (Backend.claimInterface (ρ h) number)
    (Backend.claimInterface h number)

namespace Unclaiming

variable {ρ : HandleId → HandleId} {P : Attachment σ → Attachment τ → Prop} (hE : Unclaiming ρ P)

include hE

theorem onBus (op : Operation α) (h : op.movesData = false) (hc : op.isClaim = false)
    (ho : op.opens = false) : Simulates P (onBus (op.renumbered ρ).act) (onBus op.act) :=
  simulates_onBus hE.device fun d => hE.bus d op h hc ho

theorem modifyHeld {f g : Holdings → Holdings}
    (h : ∀ held, f (held.renumbered ρ) = (g held).renumbered ρ) :
    Simulates P (modifyHeld f) (modifyHeld g) :=
  hE.modify _ _ (fun d => congrArg (fun held => { d with held }) (h d.held)) fun _ => rfl

theorem getHeld : Simulates P getHeld (Holdings.renumbered ρ <$> getHeld) :=
  simulates_getHeld hE.device

/-- A device opens no other device than itself. -/
theorem openItself : Simulates P (getDevice >>= fun d => SerialBus.onBus (Backend.openDevice d.id))
    (ρ <$> (getDevice >>= fun d => SerialBus.onBus (Backend.openDevice d.id))) := by
  intro s t h
  have hd := hE.device h
  obtain ⟨d, b⟩ := s
  obtain ⟨e, c⟩ := t
  subst hd
  obtain ⟨ho, ha⟩ := hE.openDevice e b c h
  rw [outcome_map] at ho
  rw [after_map] at ha
  rw [outcome_map, after_map, outcome_congr (getDevice_bind _ _), outcome_congr (getDevice_bind _ _),
    after_congr (getDevice_bind _ _), after_congr (getDevice_bind _ _), outcome_onBus,
    outcome_onBus, after_onBus, after_onBus]
  exact ⟨ho, ha⟩

theorem openHandle : Simulates P openHandle (ρ <$> Device.openHandle) := by
  unfold Device.openHandle
  rw [map_bind]
  refine hE.getHeld.mapBind fun held => ?_
  obtain ⟨handle, _, _, _, _⟩ := held
  cases handle with
  | some h => exact simulates_pure _
  | none =>
    dsimp only [Holdings.renumbered, Option.map_none]
    rw [← bind_assoc, ← bind_assoc]
    simp only [map_bind, map_pure]
    exact hE.openItself.mapBind fun h => (hE.modifyHeld fun _ => by rfl).bind fun _ =>
      simulates_pure _

theorem closeHandle : Simulates P closeHandle Device.closeHandle := by
  refine hE.getHeld.mapBind fun held => ?_
  obtain ⟨handle, _, _, _, _⟩ := held
  cases handle with
  | none => exact simulates_pure _
  | some h =>
    dsimp only [Holdings.renumbered, Option.map_some]
    exact (hE.modifyHeld fun _ => by rfl).bind fun _ => hE.onBus (.closeDevice h) rfl rfl rfl

theorem release (number : UInt8) :
    Simulates P (release (.number number)) (Device.release (.number number)) := by
  refine (simulates_pure number).bind fun n => hE.getHeld.mapBind fun held => ?_
  dsimp only [Holdings.renumbered]
  cases held.claimed.get? n with
  | none => exact simulates_pure _
  | some level =>
    exact simulates_ite (hE.modifyHeld fun _ => rfl) (hE.openHandle.mapBind fun h =>
      (hE.onBus (.releaseInterface h n) rfl rfl rfl).bind fun _ => hE.modifyHeld fun _ => rfl)

theorem releaseEach (d : Device) (h : HandleId) (numbers : List UInt8) :
    Simulates (On ρ P d) (releaseEach (ρ h) numbers) (Device.releaseEach h numbers) := by
  induction numbers with
  | nil => exact simulates_pure _
  | cons number rest ih =>
    refine (hE.bus d (.releaseInterface h number) rfl rfl rfl).attempted.bind fun first =>
      ih.bind fun later => ?_
    cases first with
    | error e => exact simulates_pure _
    | ok u => exact simulates_pure _

theorem releaseAll : Simulates P releaseAll Device.releaseAll := by
  refine hE.getHeld.mapBind fun held => (hE.modifyHeld fun _ => by rfl).bind fun _ => ?_
  obtain ⟨handle, _, claimed, _, _⟩ := held
  cases handle with
  | none => exact simulates_pure _
  | some h => exact simulates_onBus hE.device fun d => hE.releaseEach d h claimed.keys

theorem dispose (close : Bool) : Simulates P (dispose close) (Device.dispose close) := by
  rw [dispose_eq, dispose_eq]
  have hclosed : Simulates P (closeIf close) (closeIf close) :=
    simulates_ite hE.closeHandle.attempted (simulates_pure _)
  exact hE.releaseAll.bind fun _ => hclosed.bind fun _ => (hE.modifyHeld fun _ => by rfl).bind
    fun _ => simulates_liftResult _

theorem reset : Simulates P reset Device.reset :=
  hE.openHandle.mapBind fun h => (hE.dispose false).bind fun _ =>
    (hE.onBus (.resetDevice h) rfl rfl rfl).bind fun _ => hE.dispose true

end Unclaiming

namespace Elementary

variable {ρ : HandleId → HandleId} {P : Attachment σ → Attachment τ → Prop} (hE : Elementary ρ P)

include hE

theorem acquire (number : UInt8) (level : Nat → Nat) :
    Simulates P (acquire number level) (Device.acquire number level) := by
  rw [acquire_eq, acquire_eq]
  exact hE.openHandle.mapBind fun h =>
    (hE.getHeld.mapBind fun held =>
      simulates_ite (simulates_onBus hE.device fun d => hE.claim d h number) (simulates_pure _)).bind
        fun _ => hE.modifyHeld fun _ => rfl

theorem inStep : InStep ρ P where
  name := hE.name
  device := hE.device
  bus := fun d {_} op hq => by
    have howners := (Operation.isQuiet_iff.1 hq).1
    exact hE.bus d op (Operation.isQuiet_iff.1 hq).2 (Operation.isClaim_of_changesOwners howners)
      (Operation.opens_of_changesOwners howners)
  remember f hf := hE.modifyHeld fun held => (hf.handle held _).trans (by
    rw [Holdings.renumbered, hf.handle_eq held])
  setTimeout _ := hE.modify _ _ (fun _ => rfl) fun _ => rfl
  openHandle := hE.openHandle
  acquire number level _ := hE.acquire number level
  release := hE.release
  dispose := hE.dispose true

end Elementary

end SerialBus.Device
