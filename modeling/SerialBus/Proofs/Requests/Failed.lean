import SerialBus.Proofs.Requests.Frame

/-! What a request that fails leaves behind. It may have opened the handle and looked up the active
configuration, and a selection of an alternate may have claimed the interface; all else is held and
remembered as before. -/
namespace SerialBus.Requests

open SerialBus.Action Device Session
open Disposal (watched sent)

variable {σ α β : Type} [Backend σ]

/-- A failure of the operation leaves a state that the one before it may evolve into. -/
def FailsWithin (R : Evolution σ) (act : Action σ α) : Prop :=
  ∀ s e, outcome act s = .error e → R.rel s (after act s)

section

omit [Backend σ]

variable {R : Evolution σ}

theorem failsWithin_of_keeps {act : Action σ α} (h : Keeps R act) : FailsWithin R act :=
  fun s _ _ => h s

theorem failsWithin_of_ok {act : Action σ α} (h : ∀ s, ∃ a, outcome act s = .ok a) :
    FailsWithin R act := by
  intro s e he
  obtain ⟨a, ha⟩ := h s
  rw [ha] at he
  cases he

/-- What comes before the last step has to keep the relation, failing or not. -/
theorem FailsWithin.after {x : Action σ α} {f : α → Action σ β} (hx : Keeps R x)
    (hf : ∀ a, FailsWithin R (f a)) : FailsWithin R (x >>= f) := by
  intro s e he
  rw [outcome_bind] at he
  rw [after_bind]
  cases hr : outcome x s with
  | error e' => exact hx s
  | ok a =>
    rw [hr] at he
    exact R.trans (hx s) (hf a _ e he)

theorem failsWithin_modifyHeld {R : Evolution (Attachment σ)} (f : Holdings → Holdings) :
    FailsWithin R (modifyHeld f) := failsWithin_of_ok fun a => ⟨(), outcome_modifyHeld f a⟩

theorem failsWithin_modifyHeld_pure {R : Evolution (Attachment σ)} (f : Holdings → Holdings)
    (b : β) : FailsWithin R (modifyHeld f >>= fun _ => pure b) :=
  failsWithin_of_ok fun a => ⟨b, by rw [outcome_bind_ok _ (outcome_modifyHeld f a)]; rfl⟩

end

/-! Requests that fail. -/

section

variable (notes : Bool) (claims : Option UInt8)

theorem fails_activeConfiguration :
    FailsWithin (frames σ notes claims) (activeConfiguration : DeviceAction (Watched σ) _) := by
  intro a e he ha
  cases hi : a.device.held.activeConfig with
  | some index => exact frames_activeConfiguration_of_some notes claims ha hi
  | none =>
    have hread : FailsWithin (frames σ notes claims) (readBack : DeviceAction (Watched σ) _) := by
      rw [readBack_eq]
      apply FailsWithin.after (frames_openHandle notes claims)
      intro h
      apply FailsWithin.after (frames_reported notes claims h)
      intro found
      exact failsWithin_modifyHeld_pure _ found
    rw [activeConfiguration_eq, outcome_congr (getHeld_bind _ _), hi] at he
    rw [activeConfiguration_eq, after_congr (getHeld_bind _ _), hi]
    exact hread a e he ha

theorem fails_setConfiguration (value : Option UInt8) :
    FailsWithin (frames σ notes claims) (setConfiguration value) := by
  have hchoose : Keeps (frames σ notes claims) (chooseConfiguration value) :=
    keeps_of_simulates fun a => (plain_frames notes claims a).chooseConfiguration value
  apply FailsWithin.after hchoose
  intro chosen
  apply FailsWithin.after (frames_openHandle notes claims)
  intro h
  apply FailsWithin.after (frames_query notes claims (.setConfiguration h chosen.2))
  intro _
  exact failsWithin_modifyHeld _

/-- A claim that fails claims nothing. -/
theorem fails_acquire (number : UInt8) (level : Nat → Nat) :
    FailsWithin (frames σ notes claims) (acquire number level) := by
  rw [acquire_eq]
  apply FailsWithin.after (frames_openHandle notes claims)
  intro h
  apply FailsWithin.after (frames_claimOnce notes claims h number)
  intro _
  exact failsWithin_modifyHeld _

theorem fails_claim (target : InterfaceTarget) :
    FailsWithin (frames σ notes claims) (claim target) :=
  FailsWithin.after (frames_interfaceNumber notes claims target)
    fun number => fails_acquire notes claims number (· + 1)

theorem fails_ensureClaimed (target : InterfaceTarget) :
    FailsWithin (frames σ notes claims) (ensureClaimed target) :=
  FailsWithin.after (frames_interfaceNumber notes claims target)
    fun number => fails_acquire notes claims number (max · 1)

theorem fails_release (target : InterfaceTarget) :
    FailsWithin (frames σ notes claims) (release target) := by
  apply FailsWithin.after (frames_interfaceNumber notes claims target)
  intro number
  apply FailsWithin.after keeps_getHeld
  intro held
  cases held.claimed.get? number with
  | none => exact failsWithin_of_keeps (keeps_pure _)
  | some level =>
    by_cases h1 : 1 < level
    · simp only [if_pos h1]
      exact failsWithin_modifyHeld _
    · simp only [if_neg h1]
      apply FailsWithin.after (frames_openHandle notes claims)
      intro h
      apply FailsWithin.after (frames_query notes claims (.releaseInterface h number))
      intro _
      exact failsWithin_modifyHeld _

theorem fails_endpointType (address : UInt8) (location : InterfaceLocation) :
    FailsWithin (frames σ notes claims) (endpointType address location) := by
  have hfind : ∀ id, Keeps (frames σ notes claims) (onBus
      ((endpointCursor id location).find (fun e => e.2.endpointAddress == address) 0)) := fun id =>
    keeps_of_simulates fun a => (plain_frames notes claims a).onBus fun d =>
      (((plain_frames notes claims a).reads d).endpointCursor id location).find _ 0
  apply FailsWithin.after keeps_getHeld
  intro held
  dsimp only
  cases held.endpointTypes.get? _ with
  | some kind => exact failsWithin_of_keeps (keeps_pure _)
  | none =>
    apply FailsWithin.after keeps_getDevice
    intro d
    apply FailsWithin.after (hfind d.id)
    intro found
    cases found with
    | none => exact failsWithin_of_keeps (keeps_liftResult (.error (.invalidEndpoint address)))
    | some e => exact failsWithin_modifyHeld_pure _ _

/-! The selection of an alternate. -/

/-- An interface that is claimed already stays as it is claimed, another one is claimed once. -/
theorem frame_claimed {h : HandleId} {number : UInt8} {a : Attachment (Watched σ)}
    (ha : Counted a.device) (hh : a.device.held.handle = some h) :
    Frame notes (some number) a (after (claimOnce h number >>= fun _ => modifyHeld fun held =>
      { held with claimed :=
        held.claimed.insert number (max ((held.claimed.get? number).getD 0) 1) }) a) := by
  cases hc : a.device.held.claimed.contains number with
  | true =>
    obtain ⟨ho, hsame⟩ := eq_ok_iff.1 (claimOnce_of_claimed (h := h) hc)
    rw [after_bind_ok _ ho, hsame, after_modifyHeld]
    rw [Table.contains, Option.isSome_iff_exists] at hc
    obtain ⟨level, hlevel⟩ := hc
    have hmax : max ((a.device.held.claimed.get? number).getD 0) 1 = level := by
      rw [hlevel]
      exact Nat.max_eq_left (ha number level hlevel)
    rw [hmax, Table.insert_of_get? hlevel]
    exact Frame.refl a
  | false =>
    have hlog := (frames_query notes (some number) (.claimInterface h number) a ha).log
    have hclaim := claimOnce_of_unclaimed (h := h) hc
    rw [after_bind, outcome_congr hclaim, after_congr hclaim, outcome_onBus]
    cases ho : outcome (Backend.claimInterface h number : Action (Watched σ) Unit) a.bus with
    | error e =>
      rw [after_onBus] at hlog ⊢
      exact .of_device_eq rfl hlog
    | ok u =>
      have hanswer := answered_act (.claimInterface h number) ho
      have hnew : a.device.held.claimed.get? number = none := by
        simpa [Table.contains] using hc
      rw [after_onBus] at hlog ⊢
      rw [after_modifyHeld, hnew]
      refine ⟨hlog, rfl, .inl rfl, .inl rfl, .inr ⟨number, rfl, hc, rfl, h, hh, ?_⟩⟩
      exact hanswer

theorem frames_ensureClaimed (number : UInt8) :
    Keeps (frames σ notes (some number)) (ensureClaimed (.number number)) := by
  intro a ha
  have hacquire : (ensureClaimed (.number number) : DeviceAction (Watched σ) Unit) =
      acquire number (max · 1) := rfl
  have hopening := frames_openHandle notes (some number) a ha
  rw [hacquire, acquire_eq, after_bind]
  cases ho : outcome openHandle a with
  | error e => exact hopening
  | ok h =>
    have hh := handle_after_openHandle ho
    exact hopening.trans (frame_claimed notes (hopening.counted ha) hh)

theorem fails_selectAlternate (number alternate : UInt8) :
    FailsWithin (frames σ notes (some number)) (selectAlternate number alternate) := by
  apply FailsWithin.after (frames_ensureClaimed notes number)
  intro _
  apply FailsWithin.after (frames_openHandle notes (some number))
  intro h
  apply FailsWithin.after (frames_query notes (some number) (.setAlternate h number alternate))
  intro _
  exact failsWithin_modifyHeld _

end

/-- A selection that fails has claimed the interface that it has found, or nothing. -/
theorem frame_setAlternate {target : InterfaceTarget} {alternate : Option UInt8} {err : UsbError}
    {a : Attachment (Watched σ)} (ha : Counted a.device)
    (he : outcome (setAlternate target alternate) a = .error err) :
    ∃ claims, Frame true claims a (after (setAlternate target alternate) a) ∧
      ∀ n, claims = some n → ∃ l, outcome (findInterface target) a = .ok l ∧
        l.descriptor.interfaceNumber = n := by
  rw [setAlternate_eq] at he ⊢
  rw [outcome_bind] at he
  rw [after_bind]
  cases hl : outcome (findInterface target) a with
  | error e => exact ⟨none, frames_findInterface none target a ha, nofun⟩
  | ok l =>
    rw [hl] at he
    let number := l.descriptor.interfaceNumber
    let wanted := alternate.getD l.descriptor.alternateSetting
    have hfound := frames_findInterface (some number) target a ha
    have hcheck : Keeps (frames σ true (some number)) (checkAlternate l wanted) :=
      keeps_of_simulates fun a => (plain_frames true (some number) a).checkAlternate l wanted
    have hrest : FailsWithin (frames σ true (some number))
        (checkAlternate l wanted >>= fun _ => selectAlternate number wanted) :=
      FailsWithin.after hcheck fun _ => fails_selectAlternate true number wanted
    refine ⟨some number, hfound.trans (hrest _ err he (hfound.counted ha)), fun n hn => ?_⟩
    exact ⟨l, rfl, Option.some.inj hn⟩

/-- The frame of a request that fails. -/
theorem frame_request {r : Request α} {err : UsbError} {a : Attachment (Watched σ)}
    (ha : Counted a.device) (he : outcome r.act a = .error err) :
    ∃ claims, Frame r.sought?.isSome claims a (after r.act a) ∧
      ∀ n, claims = some n → ∃ target l, r.selected? = some target ∧
        outcome (findInterface target) a = .ok l ∧ l.descriptor.interfaceNumber = n := by
  cases r with
  | openHandle => exact ⟨none, frames_openHandle false none a ha, nofun⟩
  | setConfiguration value => exact ⟨none, fails_setConfiguration false none value a err he ha, nofun⟩
  | activeConfiguration => exact ⟨none, fails_activeConfiguration false none a err he ha, nofun⟩
  | findInterface target => exact ⟨none, frames_findInterface none target a ha, nofun⟩
  | claim target => exact ⟨none, fails_claim false none target a err he ha, nofun⟩
  | ensureClaimed target => exact ⟨none, fails_ensureClaimed false none target a err he ha, nofun⟩
  | release target => exact ⟨none, fails_release false none target a err he ha, nofun⟩
  | setAlternate target alternate =>
    obtain ⟨claims, hframe, hclaims⟩ := frame_setAlternate ha he
    refine ⟨claims, hframe, fun n hn => ?_⟩
    obtain ⟨l, hl, hnumber⟩ := hclaims n hn
    exact ⟨target, l, rfl, hl, hnumber⟩
  | endpointType address location =>
    exact ⟨none, fails_endpointType false none address location a err he ha, nofun⟩

/-- A request does on a watched bus what it does on the bus itself. -/
theorem watched_request (r : Request α) (a : Attachment σ) :
    outcome r.act (watched a) = outcome r.act a ∧
      (after r.act (watched a)).device = (after r.act a).device := by
  have hseen := r.inStep (elementary_seen (Watched.mirror_inner (σ := σ)) rfl).inStep
  obtain ⟨ho, hdevice, -⟩ := hseen (watched a) a ⟨rfl, rfl⟩
  exact ⟨ho, hdevice⟩

/-- Whatever led to a device and whatever its bus does, a request that fails leaves what is
remembered of alternates and endpoints. The handle is the same, or it is the one that the bus has
opened in answer to the request where there was none. The active configuration is the same, or it
was not known and the request, which had to find an interface, has just looked it up. The claims are
the same, unless the request was to select an alternate: then the bus may have claimed the interface
that was found, which now counts once. A request that has to find no interface leaves all but the
handle. -/
theorem failed_request_frame {a : Attachment σ} (ha : Reached a) {α : Type} (r : Request α)
    {err : UsbError} (h : outcome r.act a = .error err) :
    let held := a.device.held
    let calls := sent r.act a
    let e := (after r.act a).device
    e = { a.device with held := { held with
      handle := e.held.handle, activeConfig := e.held.activeConfig, claimed := e.held.claimed } } ∧
    (e.held.handle = held.handle ∨
      held.handle = none ∧ ∃ i, e.held.handle = some i ∧
        Answered calls (.openDevice a.device.id) i) ∧
    (e.held.activeConfig = held.activeConfig ∨
      r.sought?.isSome = true ∧ held.activeConfig = none ∧ Resolved e calls) ∧
    (e.held.claimed = held.claimed ∨
      ∃ target l i, r.selected? = some target ∧ outcome (findInterface target) a = .ok l ∧
        held.claimed.contains l.descriptor.interfaceNumber = false ∧
        e.held.claimed = held.claimed.insert l.descriptor.interfaceNumber 1 ∧
        e.held.handle = some i ∧
        Answered calls (.claimInterface i l.descriptor.interfaceNumber) ()) ∧
    (r.sought? = none → e = { a.device with held := { held with handle := e.held.handle } }) := by
  intro held calls e
  have hcounted : Counted (watched a).device := ha.counted
  obtain ⟨hout, hdevice⟩ := watched_request r a
  obtain ⟨claims, hframe, hclaims⟩ := frame_request hcounted (hout.trans h)
  have hfind : ∀ target, outcome (findInterface target) (watched a) =
      outcome (findInterface target) a := fun target => (watched_request (.findInterface target) a).1
  obtain ⟨-, hrest, hhandle, hactive, hclaimed⟩ := hframe
  rw [hdevice] at hrest hhandle hactive hclaimed
  refine ⟨hrest, hhandle, hactive, ?claimed, ?unsought⟩
  case claimed =>
    rcases hclaimed with hsame | ⟨n, hn, hfree, hinsert, i, hi, hanswer⟩
    · exact .inl hsame
    · obtain ⟨target, l, hselected, hl, rfl⟩ := hclaims n hn
      exact .inr ⟨target, l, i, hselected, (hfind target).symm.trans hl, hfree, hinsert, hi, hanswer⟩
  case unsought =>
    intro hnone
    have hsame : e.held.activeConfig = held.activeConfig := by
      rcases hactive with hsame | ⟨hsought, -⟩
      · exact hsame
      · rw [hnone] at hsought
        cases hsought
    have hkept : e.held.claimed = held.claimed := by
      rcases hclaimed with hsame | ⟨n, hn, -⟩
      · exact hsame
      · obtain ⟨target, l, hselected, -⟩ := hclaims n hn
        have hsought := Request.sought?_of_selected? hselected
        rw [hnone] at hsought
        cases hsought
    rw [hsame, hkept] at hrest
    exact hrest

/-- The bus lets an interface be claimed, but no alternate of it be selected. -/
theorem failed_request_frame_refused_alternate :
    let spec := Loopback.Device.bulkLoopback 1 2
    let bus := (Loopback.Bus.ofDevices [spec]).failOn .setInterfaceAltsetting .io
    let a : Attachment Loopback.Bus := ⟨{ id := ⟨0⟩, descriptor := spec.descriptor }, bus⟩
    let r : Request Unit := .setAlternate (.number 0) (some 0)
    let e := (after r.act a).device
    outcome r.act a = .error (.transport .io none) ∧ e.held.alternates = ∅ ∧
      e.held.activeConfig = some 0 ∧ Resolved e (sent r.act a) ∧
      ∃ l, outcome (findInterface (.number 0)) a = .ok l ∧
        e.held.claimed = (∅ : Table UInt8 Nat).insert l.descriptor.interfaceNumber 1 := by
  intro spec bus a r e
  have herror : outcome r.act a = .error (.transport .io none) := rfl
  have hactive : e.held.activeConfig = some 0 := by decide +kernel
  have hclaimed : e.held.claimed ≠ ∅ := by decide +kernel
  obtain ⟨hrest, -, hlooked, htaken, -⟩ := failed_request_frame (.fresh _ _ _) r herror
  have halternates : e.held.alternates = ∅ := congrArg (·.held.alternates) hrest
  constructor
  · exact herror
  constructor
  · exact halternates
  constructor
  · exact hactive
  constructor
  · rcases hlooked with hsame | ⟨-, -, hresolved⟩
    · have hnone : e.held.activeConfig = none := hsame
      rw [hactive] at hnone
      cases hnone
    · exact hresolved
  · rcases htaken with hsame | ⟨target, l, i, htarget, hl, -, hinsert, -⟩
    · exact absurd hsame hclaimed
    · cases htarget
      exact ⟨l, hl, hinsert⟩

end SerialBus.Requests
