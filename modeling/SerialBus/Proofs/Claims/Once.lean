import SerialBus.Proofs.Claims.Reset
import SerialBus.Proofs.Loopback.Frames
import SerialBus.Proofs.Mirrored

/-! Runs of one device on a loopback bus. A claim meets an interface that is claimed already exactly
if the device was reset while it counted a claim on it and releases were failing. -/
namespace SerialBus.Custody

open SerialBus.Action Device Session
open Loopback (Bus)
open Loopback.Bus (SameOwners)

/-- One use of a device, by itself or through a view. -/
inductive Use
  | call (c : DeviceCall)
  | onView (c : ViewCall) (v : View)
  | follow (path : ViewPath)

def Use.perform {σ : Type} [Backend σ] : Use → DeviceAction σ Unit
  | call c => c.perform >>= fun _ => pure ()
  | onView c v =>
    match c.perform? v with
    | some act => act >>= fun _ => pure ()
    | none => pure ()
  | follow path => path.follow >>= fun _ => pure ()

/-- What a use gives, apart from the number of the handle: a view that it leads to, and a reply. -/
def Use.given {σ : Type} [Backend σ] : Use → DeviceAction σ (Option View × Option Reply)
  | call c => do return (none, some (← c.perform).unnumbered)
  | onView c v =>
    match c.perform? v with
    | some act => do return (none, some (← act).unnumbered)
    | none => return (none, none)
  | follow path => do
    let (v, r) ← path.follow
    return (some v, some r)

theorem Use.perform_eq {σ : Type} [Backend σ] (u : Use) :
    (u.perform : DeviceAction σ Unit) = u.given >>= fun _ => pure () := by
  cases u with
  | call c => simp only [perform, given, bind_assoc, pure_bind]
  | follow path => simp only [perform, given, bind_assoc, pure_bind]
  | onView c v =>
    simp only [perform, given]
    cases (c.perform? v : Option (DeviceAction σ Reply)) with
    | none => rfl
    | some act => simp only [bind_assoc, pure_bind]

theorem Use.after_call {σ : Type} [Backend σ] (c : DeviceCall) (a : Attachment σ) :
    after (call c).perform a = after c.perform a := after_bind_pure _ _ a

/-- A call that only says that it is done leaves what its operation leaves. -/
theorem Use.after_unitReply {σ : Type} [Backend σ] {c : DeviceCall} {act : DeviceAction σ Unit}
    (hc : c.perform = unitReply act) (a : Attachment σ) :
    after (call c).perform a = after act a := by
  rw [after_call, hc, unitReply, after_bind_pure]

/-- Whether the use moves data through a view. -/
def Use.isViewTransfer : Use → Bool
  | onView c _ => c.movesData
  | _ => false

/-- A transfer with all that it is given. -/
structure Transfer where
  endpoint : UInt8
  payload : Payload
  target : InterfaceTarget
  timeout : Option Nat

/-- What a use transfers, on the device itself or through a view. -/
def Use.transfer? : Use → Option Transfer
  | call (.write endpoint data interface timeout) =>
    some ⟨endpoint, .send data, .ofNumber? interface, timeout⟩
  | call (.read endpoint length interface timeout) =>
    some ⟨endpoint, .receive length, .ofNumber? interface, timeout⟩
  | onView (.write data timeout) (.endpoint e) =>
    some ⟨e.address, .send data, .resolved e.interface, timeout⟩
  | onView (.read length timeout) (.endpoint e) =>
    some ⟨e.address, .receive length, .resolved e.interface, timeout⟩
  | _ => none

/-- A use that moves data leaves what its transfer leaves. -/
theorem Use.after_transfer {σ : Type} [Backend σ] {u : Use} {t : Transfer}
    (hu : u.transfer? = some t) (a : Attachment σ) :
    after u.perform a = after (Device.transfer t.endpoint t.payload t.target t.timeout) a := by
  cases u with
  | follow path => cases hu
  | call c =>
    cases c with
    | write | read =>
      cases hu
      rw [perform, after_bind_pure, DeviceCall.perform, after_bind_pure]
      exact after_bind_liftResult _ _ a
    | _ => cases hu
  | onView c v =>
    cases c <;> cases v <;> cases hu
    case onView.write.endpoint.refl data timeout e =>
      have hperform : ((onView (.write data timeout) (.endpoint e)).perform : DeviceAction σ Unit) =
          (e.write data timeout >>= fun n => pure (.number n : Reply)) >>= fun _ => pure () := rfl
      rw [hperform, after_bind_pure, after_bind_pure]
      exact after_bind_liftResult _ _ a
    case onView.read.endpoint.refl length timeout e =>
      have hperform : ((onView (.read length timeout) (.endpoint e)).perform : DeviceAction σ Unit) =
          (e.receive length timeout >>= fun b => pure (.bytes b : Reply)) >>= fun _ => pure () := rfl
      rw [hperform, after_bind_pure, after_bind_pure]
      exact after_bind_liftResult _ _ a

/-- A step of a run: the device is used, or something is changed from outside. -/
inductive Move
  | use (u : Use)
  | hook (h : Hook)

def Move.step (a : Attachment Bus) : Move → Attachment Bus
  | use u => after u.perform a
  | hook h => ⟨a.device, ((a.bus.hook h).map Prod.snd).getD a.bus⟩

def run (a : Attachment Bus) (moves : List Move) : Attachment Bus := moves.foldl Move.step a

/-- The calls that a use sends to the bus, each with the state that it meets. -/
def Use.calls (u : Use) (a : Attachment Bus) : List (Sent Bus) :=
  (after u.perform (⟨a.device, ⟨a.bus, []⟩⟩ : Attachment (Watched Bus))).bus.log

/-- At a reset in the course of the run the interface was counted on the handle while releases
failed. -/
def Lost (a : Attachment Bus) (moves : List Move) (h : HandleId) (n : UInt8) : Prop :=
  ∃ before later, moves = before ++ .use (.call .reset) :: later ∧
    Endangered (run a before).device (run a before).bus h n

section

variable {a : Attachment Bus} {h : HandleId} {n : UInt8}

theorem not_lost_nil : ¬ Lost a [] h n := by
  rintro ⟨before, later, heq, -⟩
  cases before <;> cases heq

theorem lost_cons {m : Move} {rest : List Move} :
    Lost a (m :: rest) h n ↔
      m = .use (.call .reset) ∧ Endangered a.device a.bus h n ∨ Lost (m.step a) rest h n := by
  constructor
  · rintro ⟨before, later, heq, hx⟩
    cases before with
    | nil =>
      cases heq
      exact .inl ⟨rfl, hx⟩
    | cons first before =>
      cases heq
      exact .inr ⟨before, later, rfl, hx⟩
  · rintro (⟨rfl, hx⟩ | ⟨before, later, rfl, hx⟩)
    · exact ⟨[], rest, rfl, hx⟩
    · exact ⟨m :: before, later, rfl, hx⟩

end

section

variable {σ τ : Type} [Backend σ] [Backend τ] {ρ : HandleId → HandleId}
  {P : Attachment σ → Attachment τ → Prop}

/-- Whether a view has an operation does not depend on the bus. -/
theorem perform?_isSome (c : ViewCall) (v : View) :
    (c.perform? v : Option (DeviceAction σ Reply)).isSome =
      (c.perform? v : Option (DeviceAction τ Reply)).isSome := by
  cases c <;> cases v <;> rfl

/-- Each use of a device gives the same on both sides; resets, transfers and control transfers have
to be shown to. -/
theorem simulates_given (hP : Whole ρ P) (hN : NamedTransfers P) (u : Use)
    (hR : u.isViewTransfer → ResolvedTransfers P)
    (hr : u = .call .reset → Simulates P reset reset)
    (hc : ∀ setup data timeout, u = .call (.control setup data timeout) →
      Simulates P (controlTransfer setup data timeout) (controlTransfer setup data timeout)) :
    Simulates P u.given u.given := by
  cases u with
  | call c =>
    by_cases hi : c = .info
    · subst hi
      refine hP.info.mapBind fun r => ?_
      rw [Reply.unnumbered_renumbered]
      exact simulates_pure _
    · have hcall := hP.perform hN c hi (fun h => hr (congrArg Use.call h))
        fun setup data timeout h => hc setup data timeout (congrArg Use.call h)
      exact hcall.bind fun _ => simulates_pure _
  | follow path => exact (hP.follow path).bind fun _ => simulates_pure _
  | onView c v =>
    have hsome : (c.perform? v : Option (DeviceAction σ Reply)).isSome =
        (c.perform? v : Option (DeviceAction τ Reply)).isSome := perform?_isSome c v
    cases ha : (c.perform? v : Option (DeviceAction σ Reply)) with
    | none =>
      cases hm : (c.perform? v : Option (DeviceAction τ Reply)) with
      | none =>
        simp only [Use.given, ha, hm]
        exact simulates_pure _
      | some model =>
        rw [ha, hm] at hsome
        cases hsome
    | some act =>
      cases hm : (c.perform? v : Option (DeviceAction τ Reply)) with
      | none =>
        rw [ha, hm] at hsome
        cases hsome
      | some model =>
        simp only [Use.given, ha, hm]
        exact (hP.perform? c v hR ha hm).bind fun _ => simulates_pure _

/-- Each use of a device is in step with itself; resets, transfers and control transfers have to be
shown to be so. -/
theorem simulates_use_of_whole (hP : Whole ρ P) (hN : NamedTransfers P) (u : Use)
    (hR : u.isViewTransfer → ResolvedTransfers P)
    (hr : u = .call .reset → Simulates P reset reset)
    (hc : ∀ setup data timeout, u = .call (.control setup data timeout) →
      Simulates P (controlTransfer setup data timeout) (controlTransfer setup data timeout)) :
    Simulates P u.perform u.perform := by
  rw [Use.perform_eq, Use.perform_eq]
  exact (simulates_given hP hN u hR hr hc).bind fun _ => simulates_pure _

/-- Each use of a device is in step with itself; a reset has to be shown to be so. -/
theorem simulates_use (hP : InStep ρ P) (hT : TransfersInStep ρ P) (u : Use)
    (hr : u = .call .reset → Simulates P reset reset) : Simulates P u.perform u.perform :=
  simulates_use_of_whole hP.whole (fun _ _ _ _ => hP.transfer hT _ _ _ _) u
    (fun _ _ _ _ _ => hP.transfer hT _ _ _ _) hr fun _ _ _ _ => hP.controlTransfer _ _ _

/-- What is kept by all that a device is put together from is kept by each use of it. -/
theorem keeps_use {R : Evolution (Attachment σ)} (h : KeepsParts R) (u : Use)
    (hr : u = .call .reset → Keeps R reset) : Keeps R (u.perform : DeviceAction σ Unit) :=
  keeps_of_simulates fun a => simulates_use (h.inStep a) (h.transfers a) u fun hu =>
    (hr hu).simulates a

end

section

variable {a : Attachment Bus}

/-- The use that is watched is the use itself. -/
theorem seen_use (u : Use) :
    Simulates (Seen Watched.inner) (u.perform : DeviceAction (Watched Bus) Unit) u.perform := by
  have hE : Elementary .same (Seen (Watched.inner : Watched Bus → Bus)) :=
    elementary_seen Watched.mirror_inner rfl
  exact simulates_use hE.inStep (transfersInStep_seen Watched.mirror_inner) u fun _ => hE.reset

theorem custody_use (u : Use) : Keeps (custody id) (u.perform : DeviceAction Bus Unit) :=
  keeps_use (parts_custody mirror_id) u fun _ => keeps_reset mirror_id

theorem tally_use (u : Use) (hu : u ≠ .call .reset) :
    Keeps tally (u.perform : DeviceAction (Watched Bus) Unit) :=
  keeps_use parts_tally u fun hr => absurd hr hu

/-- What a use loses count of is what is endangered, if it is a reset. -/
theorem abandoned_use (ha : Allocated a.bus) (ho : Owned a.device a.bus) (u : Use) (h : HandleId)
    (n : UInt8) :
    let e := after u.perform a
    Abandoned e.device e.bus h n ↔
      (Abandoned a.device a.bus h n ∨ u = .call .reset ∧ Endangered a.device a.bus h n) ∧
        e.device.held.handle = some h := by
  intro e
  obtain ⟨-, hdevice, hbus⟩ := seen_use u ⟨a.device, ⟨a.bus, []⟩⟩ a ⟨rfl, rfl⟩
  change _ = e.device at hdevice
  change _ = e.bus at hbus
  rw [← hdevice, ← hbus]
  by_cases hu : u = .call .reset
  · subst hu
    have hstate : after (Use.call .reset).perform (⟨a.device, ⟨a.bus, []⟩⟩ : Attachment (Watched Bus))
        = after reset ⟨a.device, ⟨a.bus, []⟩⟩ := Use.after_unitReply rfl _
    rw [hstate]
    have hreset := abandoned_reset (a := ⟨a.device, ⟨a.bus, []⟩⟩) ha ho h n
    simpa using hreset
  · have htally := ((tally_use u hu ⟨a.device, ⟨a.bus, []⟩⟩).2 ha ho).abandoned h n
    simpa [hu] using htally

theorem routine_step (k : Hook) (a : Attachment Bus) :
    a.bus.Routine (Move.step a (.hook k)).bus := by
  cases hk : a.bus.hook k with
  | none =>
    rw [Move.step, hk]
    exact Loopback.Bus.routine_of_core_eq rfl
  | some r =>
    rw [Move.step, hk]
    exact Loopback.Bus.routine_hook hk

theorem custody_step (m : Move) (a : Attachment Bus) : (custody id).rel a (m.step a) := by
  cases m with
  | use u => exact custody_use u a
  | hook k =>
    cases hk : a.bus.hook k with
    | none =>
      rw [Move.step, hk]
      exact (custody id).refl a
    | some r =>
      rw [Move.step, hk]
      exact custody_of_same (Loopback.Bus.sameOwners_hook hk) rfl rfl rfl

theorem abandoned_step (ha : Allocated a.bus) (ho : Owned a.device a.bus) (m : Move)
    (h : HandleId) (n : UInt8) :
    Abandoned (m.step a).device (m.step a).bus h n ↔
      (Abandoned a.device a.bus h n ∨
        m = .use (.call .reset) ∧ Endangered a.device a.bus h n) ∧
        (m.step a).device.held.handle = some h := by
  cases m with
  | use u =>
    have hu : Abandoned _ _ h n ↔ _ := abandoned_use ha ho u h n
    rw [Move.step, hu, Move.use.injEq]
  | hook k =>
    have hsame : SameOwners a.bus (Move.step a (.hook k)).bus := by
      cases hk : a.bus.hook k with
      | none =>
        rw [Move.step, hk]
        exact ⟨fun _ => rfl, rfl⟩
      | some r =>
        rw [Move.step, hk]
        exact Loopback.Bus.sameOwners_hook hk
    rw [or_iff_left fun x => (by cases x.1)]
    exact abandoned_of_same (fun _ => hsame.owner h) rfl (fun _ => rfl) n

theorem custody_run (moves : List Move) (a : Attachment Bus) :
    (custody id).rel a (run a moves) := by
  induction moves generalizing a with
  | nil => exact (custody id).refl a
  | cons m rest ih => exact (custody id).trans (custody_step m a) (ih (m.step a))

/-- What a whole run loses count of: what was lost before, and what it loses in its resets. -/
theorem abandoned_run (ha : Allocated a.bus) (ho : Owned a.device a.bus) (moves : List Move)
    (h : HandleId) (n : UInt8) :
    Abandoned (run a moves).device (run a moves).bus h n ↔
      (Abandoned a.device a.bus h n ∨ Lost a moves h n) ∧
        (run a moves).device.held.handle = some h := by
  induction moves generalizing a with
  | nil =>
    constructor
    · exact fun x => ⟨.inl x, x.handle⟩
    · exact fun x => x.1.resolve_right not_lost_nil
  | cons m rest ih =>
    obtain ⟨ha', ho', hf⟩ := custody_step m a ha ho
    obtain ⟨-, -, hg⟩ := custody_run rest (m.step a) ha' ho'
    -- A handle that is still held at the end was held after the first step too.
    have hkept : a.device.held.handle = some h →
        (run a (m :: rest)).device.held.handle = some h →
          (m.step a).device.held.handle = some h := fun hh hend =>
      hg.stays (Nat.lt_of_lt_of_le (lt_of_owned ha ho hh) hf.nextHandle) hend
    have hrest := ih ha' ho'
    rw [abandoned_step ha ho] at hrest
    apply hrest.trans
    rw [lost_cons]
    constructor
    · rintro ⟨(⟨hx | hx, -⟩ | hx), hend⟩
      · exact ⟨.inl hx, hend⟩
      · exact ⟨.inr (.inl hx), hend⟩
      · exact ⟨.inr (.inr hx), hend⟩
    · rintro ⟨(hx | hx | hx), hend⟩
      · exact ⟨.inl ⟨.inl hx, hkept hx.handle hend⟩, hend⟩
      · exact ⟨.inl ⟨.inr hx, hkept hx.2.handle hend⟩, hend⟩
      · exact ⟨.inr hx, hend⟩

/-- What is lost in a run is lost on a handle that was given out. -/
theorem lt_of_lost (ha : Allocated a.bus) (ho : Owned a.device a.bus) {moves : List Move}
    {h : HandleId} {n : UInt8} (hx : Lost a moves h n) : h.number < (run a moves).bus.nextHandle := by
  obtain ⟨before, later, rfl, hx⟩ := hx
  obtain ⟨hb, hob, -⟩ := custody_run before a ha ho
  obtain ⟨-, -, hf⟩ := custody_run (.use (.call .reset) :: later) (run a before) hb hob
  rw [run, List.foldl_append]
  exact Nat.lt_of_lt_of_le (lt_of_owned hb hob hx.handle) hf.nextHandle

/-- With an open handle and no claim made to fail, what is not counted can be claimed unless it is
claimed already. -/
theorem outcome_acquire (ho : Owned a.device a.bus) {h : HandleId}
    (hh : a.device.held.handle = some h) (hf : a.bus.failures.contains .claimInterface = false)
    (number : UInt8) (level : Nat → Nat) :
    (Abandoned a.device a.bus h number → outcome (acquire number level) a = .error Loopback.busy) ∧
      (¬ Abandoned a.device a.bus h number → outcome (acquire number level) a = .ok ()) := by
  obtain ⟨hopen, hsame⟩ := eq_ok_iff.1 (openHandle_of_some hh)
  have hacquire : outcome (acquire number level) a = outcome (claimOnce h number) a := by
    rw [acquire_eq, outcome_bind_ok _ hopen, hsame, outcome_bind]
    cases outcome (claimOnce h number) a <;> rfl
  rw [hacquire]
  cases hc : a.device.held.claimed.contains number with
  | true =>
    refine ⟨fun x => absurd (hc.symm.trans x.forgotten) nofun, fun _ => ?_⟩
    exact (eq_ok_iff.1 (claimOnce_of_claimed hc)).1
  | false =>
    obtain ⟨claimed, hown, -⟩ := ho.opened h hh
    obtain ⟨held, hget, -, rfl⟩ := Loopback.Bus.owner_eq_some.1 hown
    have hnone : a.bus.failures.get? .claimInterface = none :=
      Option.not_isSome_iff_eq_none.1 (Bool.eq_false_iff.1 hf)
    rw [outcome_congr (claimOnce_of_unclaimed hc), outcome_onBus]
    change (_ → outcome (Loopback.Bus.claimInterface h number) a.bus = _) ∧
      (_ → outcome (Loopback.Bus.claimInterface h number) a.bus = _)
    rw [Loopback.Bus.claimInterface_eq_serve, Loopback.Bus.outcome_serve, hnone,
      Loopback.Bus.withHandle, hget]
    constructor
    · rintro ⟨-, hn, -⟩
      simp only [(holds_of_owner hown).1 hn]
      rfl
    · intro hx
      have hn : held.claimed.contains number = false :=
        Bool.eq_false_iff.2 fun hn => hx ⟨hh, ⟨held, hget, hn⟩, hc⟩
      simp only [hn]
      rfl

end

/-- A device that was just read from a bus where nothing has happened yet. -/
def atStart (specs : List Loopback.Device) (id : DeviceId) (descriptor : DeviceDescriptor) :
    Attachment Bus :=
  ⟨{ id, descriptor }, .ofDevices specs⟩

section

variable (specs : List Loopback.Device) (id : DeviceId) (descriptor : DeviceDescriptor)

theorem allocated_atStart : Allocated (atStart specs id descriptor).bus := fun _ hh => by cases hh

theorem owned_atStart :
    Owned (atStart specs id descriptor).device (atStart specs id descriptor).bus :=
  ⟨fun _ => rfl, fun _ _ hl => (by cases hl), fun _ hh => (by cases hh)⟩

/-- What is abandoned in a run is what it has lost on the handle that is open. -/
theorem abandoned_iff_lost (moves : List Move) (h : HandleId) (n : UInt8) :
    let a := run (atStart specs id descriptor) moves
    Abandoned a.device a.bus h n ↔
      Lost (atStart specs id descriptor) moves h n ∧ a.device.held.handle = some h := by
  have hnone : ¬ Abandoned (atStart specs id descriptor).device (atStart specs id descriptor).bus
      h n := fun x => by cases x.handle
  have hrun := abandoned_run (allocated_atStart specs id descriptor)
    (owned_atStart specs id descriptor) moves h n
  rwa [or_iff_right hnone] at hrun

end

/-- In every run of a device, whatever fails in it, the claims that the next use sends to the bus
meet an interface that is still claimed on the handle exactly if the run has lost count of it in a
reset with failing releases. On the open handle, while claims are not made to fail, such an
interface is busy to each attempt to claim it, and any other is or gets claimed. -/
theorem claim_meets_claimed_iff_lost (specs : List Loopback.Device) (id : DeviceId)
    (descriptor : DeviceDescriptor) (moves : List Move) (h : HandleId) (n : UInt8) :
    let start := atStart specs id descriptor
    let a := run start moves
    (∀ u : Use, ∀ s ∈ u.calls a, s.call = .claimInterface h n →
      (Holds s.met h n ↔ Lost start moves h n)) ∧
    (a.device.held.handle = some h → a.bus.failures.contains .claimInterface = false →
      ∀ level, (Lost start moves h n → outcome (acquire n level) a = .error Loopback.busy) ∧
        (¬ Lost start moves h n → outcome (acquire n level) a = .ok ())) := by
  intro start a
  have hstart := allocated_atStart specs id descriptor
  have hfresh := owned_atStart specs id descriptor
  obtain ⟨ha, ho, -⟩ := custody_run moves start hstart hfresh
  have hab : Abandoned a.device a.bus h n ↔ _ := abandoned_iff_lost specs id descriptor moves h n
  refine ⟨fun u s hs hcall => ?_, fun hh hf level => ?_⟩
  · by_cases hu : u = .call .reset
    · subst hu
      obtain ⟨sent, hsent, hnone⟩ := noClaim_reset (⟨a.device, ⟨a.bus, []⟩⟩ : Attachment _)
      rw [Use.calls, Use.perform, after_bind_pure, DeviceCall.perform, unitReply, after_bind_pure,
        hsent, List.nil_append] at hs
      exact absurd hcall (hnone s hs h n)
    · obtain ⟨sent, hsent, hclaims⟩ := ((tally_use u hu ⟨a.device, ⟨a.bus, []⟩⟩).2 ha ho).claims
      rw [Use.calls, hsent, List.nil_append] at hs
      obtain ⟨hnamed, hheld⟩ := hclaims s hs h n hcall
      refine hheld.trans (hab.trans ⟨And.left, fun hx => ⟨hx, ?_⟩⟩)
      rcases hnamed with hh | hnew
      · exact hh
      · -- What was lost is lost on an older handle.
        exact absurd (lt_of_lost hstart hfresh hx) (Nat.not_lt.2 hnew)
  · obtain ⟨hbusy, hok⟩ := outcome_acquire ho hh hf n level
    exact ⟨fun hx => hbusy (hab.2 ⟨hx, hh⟩), fun hx => hok fun x => hx (hab.1 x).1⟩

/-- The interface is claimed, its release fails in a reset, and all failures are cleared. -/
def failedReset : List Move :=
  [.use (.call (.claim (some 0))), .hook (.failOn .releaseInterface .noDevice),
    .use (.call .reset), .hook .clearFailures]

theorem claim_meets_claimed_iff_lost_failedReset :
    let spec := Loopback.Device.bulkLoopback 1 2
    let start := atStart [spec] ⟨0⟩ spec.descriptor
    Lost start failedReset ⟨1⟩ 0 ∧
      outcome (acquire 0 (· + 1)) (run start failedReset) = .error Loopback.busy := by
  intro spec start
  have hlost : Lost start failedReset ⟨1⟩ 0 :=
    ⟨failedReset.take 2, [.hook .clearFailures], rfl, by decide +kernel, by decide +kernel,
      by unfold ReleasesFail; decide +kernel⟩
  obtain ⟨-, hopen⟩ := claim_meets_claimed_iff_lost [spec] ⟨0⟩ spec.descriptor failedReset ⟨1⟩ 0
  exact ⟨hlost, (hopen (by decide +kernel) (by decide +kernel) (· + 1)).1 hlost⟩

/-- The bus works again, and the interface that the open handle holds cannot be used any more. -/
theorem claimed_twice_after_failed_reset :
    let spec := Loopback.Device.bulkLoopback 1 2
    let a := run (atStart [spec] ⟨0⟩ spec.descriptor) failedReset
    a.bus.failures = ∅ ∧ a.device.held.handle = some ⟨1⟩ ∧
      (∃ s ∈ (Use.call (.claim (some 0))).calls a,
        s.call = .claimInterface ⟨1⟩ 0 ∧ Holds s.met ⟨1⟩ 0) ∧
      outcome (claim (.number 0)) a = .error Loopback.busy ∧
      outcome (write 0x01 [0] none none) a = .error Loopback.busy := by
  intro spec a
  have hholds : (a.bus.handles.get? ⟨1⟩).any (fun held => held.claimed.contains 0) = true := by
    decide +kernel
  obtain ⟨held, hget, hn⟩ := (Option.any_eq_true _ _).1 hholds
  have hsent : ⟨.claimInterface ⟨1⟩ 0, a.bus⟩ ∈ (Use.call (.claim (some 0))).calls a :=
    List.mem_singleton.2 rfl
  exact ⟨by decide +kernel, by decide +kernel, ⟨_, hsent, rfl, held, hget, hn⟩, rfl, rfl⟩

end SerialBus.Custody
