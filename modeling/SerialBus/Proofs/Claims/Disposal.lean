import SerialBus.Proofs.Claims.Once

/-! What a disposal sends to a bus of any kind, whatever fails in it: each claimed interface is
released once, then the handle is closed, and after that nothing is held or remembered. -/
namespace SerialBus.Disposal

open SerialBus.Action Device Session
open Custody (Use)

variable {σ : Type}

/-! What is claimed is claimed on an open handle. -/

def Guarded (d : Device) : Prop := d.held.handle = none → d.held.claimed = ∅

theorem Guarded.of_some {d : Device} {h : HandleId} (hh : d.held.handle = some h) : Guarded d :=
  fun hn => by rw [hh] at hn; cases hn

/-- Guarded devices stay guarded. -/
def guards (σ : Type) : Evolution (Attachment σ) where
  rel a e := Guarded a.device → Guarded e.device
  refl _ := id
  trans h g := g ∘ h

theorem guards_onBus {α : Type} (d : Device) (act : Action σ α) : Keeps ((guards σ).onBus d) act :=
  fun _ h => h

theorem guards_modify {f : Device → Device} (hf : ∀ d, Guarded d → Guarded (f d)) :
    Keeps (guards σ) (modifyDevice f) := fun a => hf a.device

theorem guards_unclaim : Keeps (guards σ) (modifyHeld ({ · with claimed := ∅ })) :=
  guards_modify fun _ _ _ => rfl

theorem guards_remember {f : Holdings → Holdings} (hf : RemembersOnly f) :
    Keeps (guards σ) (modifyHeld f) := by
  apply guards_modify
  intro d hd hn
  rw [hf.handle_eq] at hn
  rw [hf.claimed]
  exact hd hn

variable [Backend σ]

theorem guards_openHandle : Keeps (guards σ) (openHandle : DeviceAction σ HandleId) := by
  apply keeps_opening
  intro a hh ha
  rw [after_openHandle_of_none hh]
  cases outcome (Backend.openDevice a.device.id : Action σ HandleId) a.bus with
  | ok h => exact Guarded.of_some rfl
  | error e => exact ha

/-- What follows the opening of a handle finds it open, and need only leave it open. -/
theorem guards_opened {α : Type} {f : HandleId → DeviceAction σ α}
    (hf : ∀ h a, (after (f h) a).device.held.handle = a.device.held.handle) :
    Keeps (guards σ) (openHandle >>= f) := by
  apply guards_openHandle.bindFrom
  intro a h ho _
  exact Guarded.of_some ((hf h _).trans (handle_after_openHandle ho))

theorem guards_acquire (number : UInt8) (level : Nat → Nat) :
    Keeps (guards σ) (acquire number level : DeviceAction σ Unit) := by
  rw [acquire_eq]
  apply guards_opened
  intro h a
  rw [after_bind]
  cases outcome (claimOnce h number) a with
  | ok u => rw [after_modifyHeld, device_after_claimOnce]
  | error e => rw [device_after_claimOnce]

theorem guards_release (number : UInt8) :
    Keeps (guards σ) (release (.number number) : DeviceAction σ Unit) := by
  intro a
  cases hl : a.device.held.claimed.get? number with
  | none =>
    rw [(eq_ok_iff.1 (release_of_none hl)).2]
    exact (guards σ).refl a
  | some level =>
    intro ha
    -- Something is claimed, so the handle is open, and it stays open.
    cases hh : a.device.held.handle with
    | none =>
      rw [ha hh] at hl
      cases hl
    | some h =>
      by_cases h1 : 1 < level
      · rw [(eq_ok_iff.1 (release_of_many hl h1)).2]
        exact Guarded.of_some hh
      · rw [after_congr (release_of_last hl h1 hh), after_bind]
        cases outcome (onBus (Backend.releaseInterface h number)) a with
        | ok u =>
          rw [after_modifyHeld, after_onBus]
          exact Guarded.of_some hh
        | error e =>
          rw [after_onBus]
          exact Guarded.of_some hh

theorem guards_closeHandle : Keeps (guards σ) (closeHandle : DeviceAction σ Unit) := by
  intro a
  cases hh : a.device.held.handle with
  | none =>
    rw [(eq_ok_iff.1 (closeHandle_of_none hh)).2]
    exact (guards σ).refl a
  | some h =>
    rw [after_congr (closeHandle_of_some hh), after_onBus]
    exact fun _ _ => rfl

theorem guards_dispose (close : Bool) : Keeps (guards σ) (dispose close : DeviceAction σ Unit) :=
  keeps_disposal guards_unclaim (fun d h _ => guards_onBus d (Backend.releaseInterface h _))
    guards_closeHandle (guards_remember ⟨fun _ _ => rfl, fun _ => rfl⟩) close

theorem guards_reset : Keeps (guards σ) (reset : DeviceAction σ Unit) :=
  guards_openHandle.bind fun h => (guards_dispose false).bind fun _ =>
    (Keeps.onBus fun d => guards_onBus d (Backend.resetDevice h)).bind fun _ => guards_dispose true

theorem parts_guards : KeepsParts (guards σ) where
  bus d {_} op _ := guards_onBus d op.act
  remember hf := guards_remember hf
  setTimeout _ := guards_modify fun _ hd => hd
  openHandle := guards_openHandle
  acquire number level _ := guards_acquire number level
  release := guards_release
  dispose := guards_dispose true

theorem guards_use (u : Use) : Keeps (guards σ) (u.perform : DeviceAction σ Unit) :=
  Custody.keeps_use parts_guards u fun _ => guards_reset

/-- The devices that runs of their operations lead to, on buses that may change in any way between
the operations. -/
inductive Reached : Attachment σ → Prop
  | fresh (id : DeviceId) (descriptor : DeviceDescriptor) (bus : σ) :
    Reached ⟨{ id, descriptor }, bus⟩
  | used {a : Attachment σ} (u : Use) : Reached a → Reached (after u.perform a)
  | changed {a : Attachment σ} (bus : σ) : Reached a → Reached ⟨a.device, bus⟩

theorem Reached.guarded {a : Attachment σ} (h : Reached a) : Guarded a.device := by
  induction h with
  | fresh id descriptor bus => exact fun _ => rfl
  | used u _ ih => exact guards_use u _ ih
  | changed bus _ ih => exact ih

/-! The calls of a disposal. -/

/-- The device on the same bus, from now on watched. -/
def watched (a : Attachment σ) : Attachment (Watched σ) := ⟨a.device, ⟨a.bus, []⟩⟩

/-- The calls that an operation sends to the bus, each with the state that it meets. -/
def sent {α : Type} (act : DeviceAction (Watched σ) α) (a : Attachment σ) : List (Sent σ) :=
  (after act (watched a)).bus.log

/-- The failure of a call in the state that it meets. -/
def failure? (s : Sent σ) : Option UsbError :=
  match outcome s.call.perform s.met with
  | .error e => some e
  | .ok _ => none

/-- What is raised after a number of calls that are all made: the first failure. -/
def firstError (calls : List (Sent σ)) : Except UsbError Unit :=
  match calls.findSome? failure? with
  | some e => .error e
  | none => .ok ()

/-- The releases of interfaces one after another, whatever fails, with the states that they meet. -/
def releases (h : HandleId) : List UInt8 → σ → List (Sent σ)
  | [], _ => []
  | number :: rest, s =>
    ⟨.releaseInterface h number, s⟩ :: releases h rest (after (Backend.releaseInterface h number) s)

theorem calls_releases (h : HandleId) (numbers : List UInt8) (s : σ) :
    (releases h numbers s).map (·.call) = numbers.map (.releaseInterface h) := by
  induction numbers generalizing s with
  | nil => rfl
  | cons number rest ih =>
    rw [releases, List.map_cons, List.map_cons, ih]

theorem failure?_release (h : HandleId) (number : UInt8) (s : σ) :
    failure? ⟨.releaseInterface h number, s⟩ =
      match outcome (Backend.releaseInterface h number : Action σ Unit) s with
      | .error e => some e
      | .ok _ => none := by
  rw [failure?, BackendCall.perform, unitReply, outcome_bind_pure]
  cases outcome (Backend.releaseInterface h number : Action σ Unit) s <;> rfl

theorem failure?_close (h : HandleId) (s : σ) :
    failure? ⟨.closeDevice h, s⟩ =
      match outcome (Backend.closeDevice h : Action σ Unit) s with
      | .error e => some e
      | .ok _ => none := by
  rw [failure?, BackendCall.perform, unitReply, outcome_bind_pure]
  cases outcome (Backend.closeDevice h : Action σ Unit) s <;> rfl

theorem outcome_releaseEach_eq (h : HandleId) (numbers : List UInt8) (s : σ) :
    outcome (releaseEach h numbers) s = .ok ((releases h numbers s).findSome? failure?) := by
  induction numbers generalizing s with
  | nil => rfl
  | cons number rest ih =>
    rw [releaseEach, outcome_bind_ok _ (outcome_attempt _ _), after_attempt, outcome_bind_ok _ (ih _),
      releases, List.findSome?_cons, failure?_release]
    cases outcome (Backend.releaseInterface h number : Action σ Unit) s <;> rfl

theorem log_releaseEach (h : HandleId) (numbers : List UInt8) (w : Watched σ) :
    after (releaseEach h numbers) w =
      ⟨after (releaseEach h numbers) w.inner, w.log ++ releases h numbers w.inner⟩ := by
  induction numbers generalizing w with
  | nil => simp [releaseEach, releases]
  | cons number rest ih =>
    have hone : after (Backend.releaseInterface h number) w =
        ⟨after (Backend.releaseInterface h number) w.inner,
          w.log ++ [⟨.releaseInterface h number, w.inner⟩]⟩ := Watched.after_watch _ _ _
    rw [after_releaseEach_cons, ih, hone, after_releaseEach_cons, releases, List.append_assoc,
      List.singleton_append]

/-- The bus after a disposal of claims. -/
def released (a : Attachment σ) (h : HandleId) : σ :=
  after (releaseEach h a.device.held.claimed.keys) a.bus

/-- What a disposal sends, if the device has a handle. -/
def farewell (a : Attachment σ) (h : HandleId) (close : Bool) : List (Sent σ) :=
  releases h a.device.held.claimed.keys a.bus ++
    if close then [⟨.closeDevice h, released a h⟩] else []

/-- A device that holds no more than an open handle. -/
def bare (a : Attachment σ) (handle : Option HandleId) (bus : σ) : Attachment σ :=
  a.hold (fun _ => { Holdings.empty with handle }) bus

theorem closeIf_apply (close : Bool) (a : Attachment σ) :
    outcome (closeIf close) a = .ok (if close then outcome closeHandle a else .ok ()) ∧
      after (closeIf close) a = if close then after closeHandle a else a := by
  cases close with
  | false => exact ⟨rfl, rfl⟩
  | true => exact ⟨outcome_attempt _ _, after_attempt _ _⟩

theorem dispose_of_none {a : Attachment σ} (hh : a.device.held.handle = none) (close : Bool) :
    outcome (dispose close) a = .ok () ∧ after (dispose close) a = bare a none a.bus := by
  obtain ⟨hr, hs⟩ := eq_ok_iff.1 (releaseAll_of_none hh)
  obtain ⟨hc, he⟩ := closeIf_apply close (a.hold ({ · with claimed := ∅ }) a.bus)
  obtain ⟨ho, hsame⟩ := eq_ok_iff.1 (closeHandle_of_none
    (a := a.hold ({ · with claimed := ∅ }) a.bus) hh)
  rw [ho, ite_self] at hc
  rw [hsame, ite_self] at he
  obtain ⟨hout, hafter⟩ := dispose_apply hr (hs ▸ hc)
  rw [hout, hafter, hs, he]
  refine ⟨rfl, ?_⟩
  simp only [Attachment.hold, bare, hh]
  rfl

/-- A disposal of an open handle makes all its calls, raises the first failure among them, and
leaves at most the handle. -/
theorem dispose_of_some {a : Attachment σ} {h : HandleId} (hh : a.device.held.handle = some h)
    (close : Bool) :
    outcome (dispose close) a = firstError (farewell a h close) ∧
      after (dispose close) a = bare a (if close then none else some h)
        (if close then after (Backend.closeDevice h) (released a h) else released a h) := by
  have hall : releaseAll a = _ := releaseAll_of_some hh
  have hr : outcome releaseAll a = .ok ((releases h a.device.held.claimed.keys a.bus).findSome?
      failure?) := by
    rw [outcome_congr hall, outcome_onBus]
    exact outcome_releaseEach_eq h _ _
  have hs : after releaseAll a = a.hold ({ · with claimed := ∅ }) (released a h) := by
    rw [after_congr hall, after_onBus]
    rfl
  obtain ⟨hc, he⟩ := closeIf_apply close (after releaseAll a)
  obtain ⟨hout, hafter⟩ := dispose_apply hr hc
  have hclose : closeHandle (after releaseAll a) = _ :=
    closeHandle_of_some (h := h) (by rw [hs]; exact hh)
  rw [hout, hafter, he, firstError, farewell, List.findSome?_append]
  cases close with
  | false =>
    refine ⟨?_, ?_⟩
    · cases (releases h a.device.held.claimed.keys a.bus).findSome? failure? <;> rfl
    · rw [hs]
      simp only [Attachment.hold, bare, hh]
      rfl
  | true =>
    simp only [if_true]
    rw [outcome_congr hclose, after_congr hclose, after_onBus, outcome_onBus, hs]
    refine ⟨?_, rfl⟩
    simp only [List.findSome?_cons, List.findSome?_nil, failure?_close]
    cases (releases h a.device.held.claimed.keys a.bus).findSome? failure? with
    | some e => rfl
    | none =>
      simp only [Attachment.hold]
      cases outcome (Backend.closeDevice h : Action σ Unit) (released a h) <;> rfl

theorem sent_dispose_of_none {a : Attachment σ} (hh : a.device.held.handle = none) (close : Bool) :
    sent (dispose close) a = [] := by
  rw [sent, (dispose_of_none (a := watched a) hh close).2]
  rfl

theorem sent_dispose_of_some {a : Attachment σ} {h : HandleId}
    (hh : a.device.held.handle = some h) (close : Bool) :
    sent (dispose close) a = farewell a h close := by
  have hreleased : released (watched a) h =
      ⟨released a h, releases h a.device.held.claimed.keys a.bus⟩ := log_releaseEach _ _ _
  rw [sent, (dispose_of_some (a := watched a) hh close).2, bare, Attachment.hold, hreleased,
    farewell]
  cases close with
  | false => exact (List.append_nil _).symm
  | true => exact congrArg Watched.log (Watched.after_watch _ _ _)

/-- What the first disposal leaves is left alone by the next one, unless that has a handle to close
which the first one was to keep. -/
theorem dispose_bare {a : Attachment σ} {close : Bool} {handle : Option HandleId} {bus : σ}
    (hclose : handle.isSome → close = false) :
    let e := bare a handle bus
    sent (dispose close) e = [] ∧ dispose close e = .ok () e := by
  intro e
  cases handle with
  | none =>
    have hh : e.device.held.handle = none := rfl
    exact ⟨sent_dispose_of_none hh close, eq_ok_iff.2 (dispose_of_none hh close)⟩
  | some h =>
    have hh : e.device.held.handle = some h := rfl
    cases hclose rfl
    exact ⟨sent_dispose_of_some hh false, eq_ok_iff.2 (dispose_of_some hh false)⟩

/-- Whatever led to a device and whatever fails, its disposal releases each claimed interface once
and in ascending order, then closes the handle if it is to be closed, and raises the first failure
of these calls. Nothing but the handle that is to be kept is held or remembered afterwards, so that
a second disposal makes no call and succeeds. -/
theorem dispose_gives_all_back {a : Attachment σ} (ha : Reached a) (close : Bool) :
    let held := a.device.held
    let calls := sent (dispose close) a
    let e := after (dispose close) a
    (∃ numbers : List UInt8, numbers.Pairwise (· < ·) ∧
      (∀ n, n ∈ numbers ↔ held.claimed.contains n = true) ∧
      (held.handle = none → numbers = []) ∧
      calls.map (·.call) =
        match held.handle with
        | none => []
        | some h => numbers.map (.releaseInterface h) ++ if close then [.closeDevice h] else []) ∧
    outcome (dispose close) a = firstError calls ∧
    e.device = { a.device with held :=
      { Holdings.empty with handle := if close then none else held.handle } } ∧
    ∀ again : Bool, (again = true → close = true) →
      sent (dispose again) e = [] ∧ dispose again e = .ok () e := by
  intro held calls e
  have hascending : held.claimed.keys.Pairwise (· < ·) :=
    List.pairwise_map.2 (held.claimed.ascending.imp fun hlt => UInt8.lt_iff_toNat_lt.2 hlt)
  have hguarded : held.handle = none → held.claimed.keys = [] := fun hh => by
    rw [show held.claimed = ∅ from ha.guarded hh]
    rfl
  cases hh : a.device.held.handle with
  | none =>
    obtain ⟨hout, hafter⟩ := dispose_of_none hh close
    have hcalls : calls = [] := sent_dispose_of_none hh close
    have he : e = bare a none a.bus := hafter
    refine ⟨⟨held.claimed.keys, hascending, fun _ => Table.mem_keys, fun _ => hguarded hh, ?_⟩, ?_,
      ?_, fun again _ => ?_⟩
    · rw [hcalls]
      rfl
    · rw [hcalls]
      exact hout
    · rw [he]
      cases close <;> rfl
    · rw [he]
      exact dispose_bare nofun
  | some h =>
    obtain ⟨hout, hafter⟩ := dispose_of_some hh close
    have hcalls : calls = farewell a h close := sent_dispose_of_some hh close
    have he : e = bare a _ _ := hafter
    refine ⟨⟨held.claimed.keys, hascending, fun _ => Table.mem_keys, nofun, ?_⟩, ?_, ?_,
      fun again hagain => ?_⟩
    · rw [hcalls, farewell, List.map_append, calls_releases]
      cases close <;> rfl
    · rw [hcalls]
      exact hout
    · rw [he]
      cases close <;> rfl
    · rw [he]
      apply dispose_bare
      cases close with
      | true => exact nofun
      | false => exact fun _ => Bool.eq_false_iff.2 fun ht => nomatch hagain ht

/-- An interface was claimed, and then the bus lets neither releases nor closes succeed. -/
def stubborn (a : Attachment Loopback.Bus) : Attachment Loopback.Bus :=
  let claimed := after (Use.call (.claim (some 0))).perform a
  ⟨claimed.device,
    (claimed.bus.failOn .releaseInterface .noDevice).failOn .closeDevice .access⟩

theorem dispose_gives_all_back_stubborn :
    let spec := Loopback.Device.bulkLoopback 1 2
    let a := stubborn ⟨{ id := ⟨0⟩, descriptor := spec.descriptor }, .ofDevices [spec]⟩
    Reached a ∧
      (sent (dispose true) a).map (·.call) = [.releaseInterface ⟨1⟩ 0, .closeDevice ⟨1⟩] ∧
      outcome (dispose true) a = .error (.transport .noDevice none) ∧
      outcome (dispose true) (after (dispose true) a) = .ok () := by
  intro spec a
  have ha : Reached a := .changed _ (.used _ (.fresh _ _ _))
  obtain ⟨-, hout, -, hagain⟩ := dispose_gives_all_back ha true
  exact ⟨ha, rfl, hout.trans rfl, (eq_ok_iff.1 (hagain true fun h => h).2).1⟩

end SerialBus.Disposal
