import SerialBus.Proofs.Claims.Once
import SerialBus.Proofs.Loopback.Served

/-! What becomes of open handles. As long as handles can be closed, a device leaves none open but
the one that it holds. -/
namespace SerialBus.Custody

open SerialBus.Action Device Session
open Loopback (Bus)
open Loopback.Bus (SameOwners Reowned Ends Opens Closes Claims Releases)

/-- Neither releases nor closes are made to fail. -/
structure Sparing (b : Bus) : Prop where
  release : ¬ ReleasesFail b
  close : b.failures.contains .closeDevice = false

theorem Sparing.of_failures {b c : Bus} (hb : Sparing b) (h : c.failures = b.failures) :
    Sparing c := by
  constructor
  · unfold ReleasesFail
    rw [h]
    exact hb.release
  · rw [h]
    exact hb.close

/-- What fails stays the same. A handle that is open afterwards is that of the device, unless it
was open before and not that of the device. -/
structure Settles (a e : Attachment Bus) : Prop where
  failures : e.bus.failures = a.bus.failures
  settled : Sparing a.bus → ∀ h, (e.bus.owner h).isSome →
    e.device.held.handle = some h ∨ (a.bus.owner h).isSome ∧ a.device.held.handle ≠ some h

theorem Settles.trans {a e k : Attachment Bus} (h : Settles a e) (g : Settles e k) :
    Settles a k := by
  refine ⟨g.failures.trans h.failures, fun ha i hi => ?_⟩
  rcases g.settled (ha.of_failures h.failures) i hi with hk | ⟨he, hne⟩
  · exact .inl hk
  · rcases h.settled ha i he with hh | hbefore
    · exact absurd hh hne
    · exact .inr hbefore

/-- A step that opens nothing and keeps the handle of the device. -/
theorem Settles.of_fewer {a e : Attachment Bus} (hf : e.bus.failures = a.bus.failures)
    (hopen : ∀ h, (e.bus.owner h).isSome → (a.bus.owner h).isSome)
    (hh : e.device.held.handle = a.device.held.handle) : Settles a e := by
  refine ⟨hf, fun _ h he => ?_⟩
  by_cases hk : a.device.held.handle = some h
  · exact .inl (hh.trans hk)
  · exact .inr ⟨hopen h he, hk⟩

def settles : Evolution (Attachment Bus) where
  rel := Settles
  refl _ := .of_fewer rfl (fun _ h => h) rfl
  trans h g := h.trans g

/-- A change of a handle that stays open. -/
theorem open_of_reowned {b c : Bus} {h : HandleId} {v w : DeviceId × ByteSet}
    (hb : b.owner h = some v) (hre : Reowned h (some w) b c) (i : HandleId)
    (hi : (c.owner i).isSome) : (b.owner i).isSome := by
  by_cases hih : i = h
  · rw [hih, hb]
    rfl
  · rwa [hre.others i hih] at hi

section

variable {α : Type} (d : Device) (h : HandleId) (number : UInt8)

theorem settles_quiet (op : Operation α) (hq : op.changesOwners = false) :
    Keeps (settles.onBus d) (op.act : Action Bus α) := by
  intro b
  have hsame : SameOwners b (after op.act b) := Loopback.Bus.sameOwners_act op hq b
  apply Settles.of_fewer (Loopback.Bus.failures_act op b)
  · intro i hi
    exact hsame.owner i ▸ hi
  · rfl

theorem settles_claimInterface :
    Keeps (settles.onBus d) (Backend.claimInterface h number : Action Bus Unit) := by
  intro b
  apply Settles.of_fewer (Loopback.Bus.failures_act (.claimInterface h number) b)
  · intro i hi
    have hend := Loopback.Bus.ends_claimInterface b h number
    change ((after (Loopback.Bus.claimInterface h number) b).owner i).isSome at hi
    generalize outcome (Loopback.Bus.claimInterface h number) b = r at hend
    cases hend with
    | failed hsame => exact hsame.owner i ▸ hi
    | done hclaims =>
      obtain ⟨-, id, claimed, hown, -, hre⟩ := hclaims
      exact open_of_reowned hown hre i hi
  · rfl

theorem settles_releaseInterface :
    Keeps (settles.onBus d) (Backend.releaseInterface h number : Action Bus Unit) := by
  intro b
  apply Settles.of_fewer (Loopback.Bus.failures_act (.releaseInterface h number) b)
  · intro i hi
    have hend := Loopback.Bus.ends_releaseInterface b h number
    change ((after (Loopback.Bus.releaseInterface h number) b).owner i).isSome at hi
    generalize outcome (Loopback.Bus.releaseInterface h number) b = r at hend
    cases hend with
    | failed hsame => exact hsame.owner i ▸ hi
    | done hreleases =>
      obtain ⟨-, id, claimed, hown, -, hre⟩ := hreleases
      exact open_of_reowned hown hre i hi
  · rfl

end

theorem settles_modify {f : Device → Device} (hf : ∀ d, (f d).held.handle = d.held.handle) :
    Keeps settles (modifyDevice f : DeviceAction Bus Unit) := fun a =>
  Settles.of_fewer rfl (fun _ h => h) (hf a.device)

theorem settles_hold {f : Holdings → Holdings} (hf : ∀ held, (f held).handle = held.handle) :
    Keeps settles (modifyHeld f : DeviceAction Bus Unit) :=
  settles_modify fun d => hf d.held

theorem settles_openHandle : Keeps settles (openHandle : DeviceAction Bus HandleId) := by
  apply keeps_opening
  intro a hh
  have hend := Loopback.Bus.ends_openDevice a.bus a.device.id
  have hf := Loopback.Bus.failures_act (.openDevice a.device.id) a.bus
  rw [after_openHandle_of_none hh]
  change Ends _ _ (outcome (Backend.openDevice a.device.id : Action Bus HandleId) a.bus)
    (after (Backend.openDevice a.device.id : Action Bus HandleId) a.bus) at hend
  cases hr : outcome (Backend.openDevice a.device.id : Action Bus HandleId) a.bus with
  | error e =>
    rw [hr] at hend
    cases hend with
    | failed hsame => exact Settles.of_fewer hf (fun i hi => hsame.owner i ▸ hi) rfl
  | ok h =>
    rw [hr] at hend
    cases hend with
    | done hopens =>
      obtain ⟨-, hre, -⟩ := hopens
      refine ⟨hf, fun _ i hi => ?_⟩
      by_cases hih : i = h
      · exact .inl (by rw [hih]; rfl)
      · refine .inr ⟨?_, hh ▸ nofun⟩
        rwa [← hre.others i hih]

/-- A close that is not made to fail only fails if the handle is not open. -/
theorem closed_of_sparing {b : Bus} {h : HandleId} (hs : Sparing b) :
    (after (Backend.closeDevice h : Action Bus Unit) b).owner h = none := by
  have hnone : b.failures.get? .closeDevice = none :=
    Option.not_isSome_iff_eq_none.1 (Bool.eq_false_iff.1 hs.close)
  have hend := Loopback.Bus.ends_closeDevice b h
  have ho : outcome (Loopback.Bus.closeDevice h) b =
      (Loopback.Bus.withHandle h
        (fun _ => .ok ((), fun c => { c with handles := c.handles.erase h })) b).map Prod.fst := by
    rw [Loopback.Bus.closeDevice_eq_serve, Loopback.Bus.outcome_serve, hnone]
  change (after (Loopback.Bus.closeDevice h) b).owner h = none
  cases hr : outcome (Loopback.Bus.closeDevice h) b with
  | ok u =>
    rw [hr] at hend
    cases hend with
    | done hcloses => exact hcloses.1.owner
  | error e =>
    rw [hr] at hend
    cases hend with
    | failed hsame =>
      rw [hsame.owner, Loopback.Bus.owner]
      cases hget : b.handles.get? h with
      | none => rfl
      | some held =>
        rw [ho, Loopback.Bus.withHandle, hget] at hr
        cases hr

theorem settles_closeHandle : Keeps settles (closeHandle : DeviceAction Bus Unit) := by
  intro a
  cases hh : a.device.held.handle with
  | none =>
    rw [(eq_ok_iff.1 (closeHandle_of_none hh)).2]
    exact settles.refl a
  | some h =>
    rw [after_congr (closeHandle_of_some hh), after_onBus]
    refine ⟨Loopback.Bus.failures_act (.closeDevice h) a.bus, fun hs i hi => .inr ?_⟩
    have hgone : (after (Backend.closeDevice h : Action Bus Unit) a.bus).owner h = none :=
      closed_of_sparing hs
    have hih : i ≠ h := by
      intro heq
      rw [heq, Attachment.hold, hgone] at hi
      cases hi
    have hsame : (after (Backend.closeDevice h : Action Bus Unit) a.bus).owner i =
        a.bus.owner i := by
      have hend := Loopback.Bus.ends_closeDevice a.bus h
      change (after (Loopback.Bus.closeDevice h) a.bus).owner i = a.bus.owner i
      generalize outcome (Loopback.Bus.closeDevice h) a.bus = r at hend
      cases hend with
      | failed hsame => exact hsame.owner i
      | done hcloses => exact hcloses.1.others i hih
    constructor
    · rwa [Attachment.hold, hsame] at hi
    · rw [hh]
      exact fun heq => hih (Option.some.inj heq).symm

theorem settles_acquire (number : UInt8) (level : Nat → Nat) :
    Keeps settles (acquire number level : DeviceAction Bus Unit) :=
  keeps_acquisition settles_openHandle (fun d h => settles_claimInterface d h number)
    (fun _ => settles_hold fun _ => rfl) level

theorem settles_release (number : UInt8) :
    Keeps settles (release (.number number) : DeviceAction Bus Unit) :=
  keeps_giveBack settles_openHandle (fun d h n _ => settles_releaseInterface d h n)
    (fun _ => settles_hold fun _ => rfl) number

theorem settles_dispose (close : Bool) : Keeps settles (dispose close : DeviceAction Bus Unit) :=
  keeps_disposal (settles_hold fun _ => rfl) settles_releaseInterface settles_closeHandle
    (settles_hold fun _ => rfl) close

theorem settles_reset : Keeps settles (reset : DeviceAction Bus Unit) :=
  settles_openHandle.bind fun h => (settles_dispose false).bind fun _ =>
    (Keeps.onBus fun d => settles_quiet d (.resetDevice h) rfl).bind fun _ => settles_dispose true

theorem parts_settles : KeepsParts settles where
  bus d {_} op hc := settles_quiet d op hc
  remember hf := settles_hold hf.handle_eq
  setTimeout _ := settles_modify fun _ => rfl
  openHandle := settles_openHandle
  acquire number level _ := settles_acquire number level
  release := settles_release
  dispose := settles_dispose true

/-- No use of a device leaves a handle open that the device does not hold. -/
theorem settles_use (u : Use) : Keeps settles (u.perform : DeviceAction Bus Unit) :=
  keeps_use parts_settles u fun _ => settles_reset

end SerialBus.Custody
