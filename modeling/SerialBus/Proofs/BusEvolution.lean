import SerialBus.Proofs.Claims.Once

/-! How a bus may evolve under the uses of a device. What each standard operation of the bus keeps,
all uses of a device keep but resets and control transfers that are no standard requests. -/
namespace SerialBus

open SerialBus.Action Device Custody

variable {σ α : Type}

/-- What may happen to the bus, whatever happens to the device. -/
def Evolution.ofBus (S : Evolution σ) : Evolution (Attachment σ) where
  rel a e := S.rel a.bus e.bus
  refl a := S.refl a.bus
  trans h k := S.trans h k

namespace BusEvolution

variable {S : Evolution σ}

theorem keeps_onBus {act : Action σ α} (h : Keeps S act) : Keeps S.ofBus (onBus act) :=
  Keeps.onBus fun _ => h

theorem keeps_modify (f : Device → Device) : Keeps S.ofBus (modifyDevice f : DeviceAction σ Unit) :=
  fun a => S.refl a.bus

theorem keeps_hold (f : Holdings → Holdings) :
    Keeps S.ofBus (modifyHeld f : DeviceAction σ Unit) := keeps_modify _

variable [Backend σ]

theorem keeps_openHandle (h : ∀ id, Keeps S (Backend.openDevice id : Action σ HandleId)) :
    Keeps S.ofBus (openHandle : DeviceAction σ HandleId) := by
  apply keeps_opening
  intro a hh
  have hopen : S.rel a.bus (after (Backend.openDevice a.device.id : Action σ HandleId) a.bus) :=
    h a.device.id a.bus
  rw [after_openHandle_of_none hh]
  cases outcome (Backend.openDevice a.device.id : Action σ HandleId) a.bus with
  | ok i => exact hopen
  | error e => exact hopen

theorem keeps_closeHandle (h : ∀ i, Keeps S (Backend.closeDevice i : Action σ Unit)) :
    Keeps S.ofBus (closeHandle : DeviceAction σ Unit) := by
  intro a
  cases hh : a.device.held.handle with
  | none =>
    rw [(eq_ok_iff.1 (closeHandle_of_none hh)).2]
    exact S.refl a.bus
  | some i =>
    rw [after_congr (closeHandle_of_some hh), after_onBus]
    exact h i a.bus

theorem keeps_dispose (hrelease : ∀ i n, Keeps S (Backend.releaseInterface i n : Action σ Unit))
    (hclose : ∀ i, Keeps S (Backend.closeDevice i : Action σ Unit)) (close : Bool) :
    Keeps S.ofBus (dispose close : DeviceAction σ Unit) :=
  keeps_disposal (keeps_hold _) (fun _ i n => hrelease i n) (keeps_closeHandle hclose)
    (keeps_hold _) close

variable (hop : ∀ {α : Type} (op : Operation α), op.isStandard → Keeps S (op.act : Action σ α))

include hop

theorem opening : Keeps S.ofBus (openHandle : DeviceAction σ HandleId) :=
  keeps_openHandle fun id => hop (.openDevice id) rfl

theorem acquiring (number : UInt8) (level : Nat → Nat) :
    Keeps S.ofBus (acquire number level : DeviceAction σ Unit) :=
  keeps_acquisition (opening hop) (fun _ i => hop (.claimInterface i number) rfl)
    (fun _ => keeps_hold _) level

theorem plain (a : Attachment σ) : Plain .same (S.ofBus.from a) :=
  plain_of_keeps (R := S.ofBus) (fun _ {_} op _ _ hstandard => hop op hstandard) a

theorem whole (a : Attachment σ) : Whole .same (S.ofBus.from a) where
  toPlain := plain hop a
  setTimeout _ := (keeps_modify _).simulates a
  openHandle := (opening hop).simulates_opening a
  acquire number level _ := (acquiring hop number level).simulates a
  release number := Keeps.simulates (keeps_giveBack (opening hop)
    (fun _ i n _ => hop (.releaseInterface i n) rfl) (fun _ => keeps_hold _) number) a
  dispose := Keeps.simulates (keeps_dispose (fun i n => hop (.releaseInterface i n) rfl)
    (fun i => hop (.closeDevice i) rfl) true) a
  setConfiguration := (plain hop a).setConfiguration ((opening hop).simulates_opening a)
    fun h _ value => Keeps.simulates ((keeps_onBus (hop (.setConfiguration h value) rfl)).bind
      fun _ => keeps_hold _) a
  activeConfiguration := (plain hop a).activeConfiguration ((opening hop).simulates_opening a)
    fun _ => (keeps_hold _).simulates a
  selectAlternate number alternate := Keeps.simulates ((acquiring hop number (max · 1)).bind
    fun _ => (opening hop).bind fun h =>
      (keeps_onBus (hop (.setAlternate h number alternate) rfl)).bind fun _ => keeps_hold _) a

theorem moving (a : Attachment σ) : TransfersInStep .same (S.ofBus.from a) := by
  intro d β op hmoves
  have hstandard : op.isStandard = true := by
    cases op <;> first | rfl | cases hmoves
  have hkeeps : Keeps (S.ofBus.onBus d) (op.act : Action σ β) := hop op hstandard
  exact hkeeps.simulates_on a

/-- What the standard operations of the bus keep is kept by each use; a reset and a control transfer
of the user's own have to be shown to keep it. -/
theorem keeps_use (u : Use) (hr : u = .call .reset → Keeps S.ofBus (reset : DeviceAction σ Unit))
    (hc : ∀ setup data timeout, u = .call (.control setup data timeout) →
      Keeps S.ofBus (controlTransfer setup data timeout : DeviceAction σ Transferred)) :
    Keeps S.ofBus (u.perform : DeviceAction σ Unit) := by
  refine keeps_of_simulates fun a => ?_
  have htypes : ∀ address l, Simulates (S.ofBus.from a) (endpointType address l)
      (endpointType address l) :=
    (plain hop a).endpointType fun _ _ => (keeps_hold _).simulates a
  have htransfer := (whole hop a).transfer htypes (moving hop a)
  exact simulates_use_of_whole (whole hop a) (fun _ _ _ _ => htransfer _ _ _ _) u
    (fun _ _ _ _ _ => htransfer _ _ _ _) (fun hu => (hr hu).simulates a)
    fun setup data timeout hu => (hc setup data timeout hu).simulates a

end BusEvolution

end SerialBus
