import SerialBus.Proofs.Claims.Tally

/-! What a reset loses count of. If releases are made to fail then nothing is given back, the reset
ends with the failure, and the handle stays open without its claims being counted. -/
namespace SerialBus.Custody

open SerialBus.Action Device Session
open Loopback (Bus)
open Loopback.Bus (SameOwners Releases)

/-- Releases are made to fail. -/
def ReleasesFail (b : Bus) : Prop := b.failures.contains .releaseInterface = true

/-- What the device counts as claimed on its handle while releases fail. -/
structure Endangered (d : Device) (b : Bus) (h : HandleId) (n : UInt8) : Prop where
  handle : d.held.handle = some h
  counted : d.held.claimed.contains n = true
  failing : ReleasesFail b

section

variable {b : Bus} {h : HandleId} {number : UInt8}

theorem releaseInterface_failing (h : HandleId) (number : UInt8) (hf : ReleasesFail b) :
    ∃ e, outcome (Backend.releaseInterface h number : Action Bus Unit) b = .error e := by
  obtain ⟨kind, hk⟩ := Option.isSome_iff_exists.1 hf
  change ∃ e, outcome (Loopback.Bus.releaseInterface h number) b = .error e
  rw [Loopback.Bus.releaseInterface_eq_serve, Loopback.Bus.outcome_serve, hk]
  exact ⟨_, rfl⟩

/-- Where releases work, what is claimed can be released. -/
theorem releaseInterface_working (hf : ¬ ReleasesFail b) (hh : Holds b h number) :
    outcome (Backend.releaseInterface h number : Action Bus Unit) b = .ok () := by
  obtain ⟨held, hget, hn⟩ := hh
  have hnone : b.failures.get? .releaseInterface = none := Option.not_isSome_iff_eq_none.1 hf
  change outcome (Loopback.Bus.releaseInterface h number) b = .ok ()
  rw [Loopback.Bus.releaseInterface_eq_serve, Loopback.Bus.outcome_serve, hnone]
  simp [Loopback.Bus.withHandle, hget, hn, Except.map]

theorem failures_releaseInterface :
    (after (Backend.releaseInterface h number : Action Bus Unit) b).failures = b.failures := by
  change (after (Loopback.Bus.releaseInterface h number) b).failures = b.failures
  rcases Loopback.Bus.releaseInterface_cases b h number with ⟨e, -, hc⟩ | ⟨held, -, -, -, hs⟩
  · exact congrArg (·.failures) hc
  · rw [hs]
    rfl

end

section

variable {w : Watched Bus} {h : HandleId}

/-- One release leaves what fails, and takes its interface from what is held unless it fails. -/
theorem releaseInterface_step (number : UInt8) :
    let c := (after (Backend.releaseInterface h number) w).inner
    (ReleasesFail c ↔ ReleasesFail w.inner) ∧
      (ReleasesFail w.inner → SameOwners w.inner c) ∧
      (¬ ReleasesFail w.inner → ∀ n, Holds c h n ↔ Holds w.inner h n ∧ number ≠ n) := by
  have hend := ends_releaseInterface Watched.mirror_inner h number w
  obtain ⟨ho, ha⟩ := Watched.mirror_inner.act (.releaseInterface h number) w
  rw [Operation.act] at ho ha
  refine ⟨?_, fun hf => ?_, fun hf n => ?_⟩
  · rw [ha, ReleasesFail, Operation.act, failures_releaseInterface]
    rfl
  · obtain ⟨e, he⟩ := releaseInterface_failing h number hf
    rw [ho, Operation.act, he] at hend
    cases hend with
    | failed hsame => exact hsame
  · cases hr : outcome (Backend.releaseInterface h number : Action (Watched Bus) Unit) w with
    | ok u =>
      rw [hr] at hend
      cases hend with
      | done hreleases => exact holds_releases hreleases
    | error e =>
      rw [hr] at hend
      cases hend with
      | failed hsame =>
        -- It can only fail if the interface was not claimed to begin with.
        rw [holds_congr (hsame.owner h)]
        refine ⟨fun hn => ⟨hn, fun heq => ?_⟩, And.left⟩
        have hok := releaseInterface_working hf (heq ▸ hn)
        rw [ho, Operation.act, hok] at hr
        cases hr

/-- While releases fail, none of them does anything. -/
theorem releaseEach_failing (numbers : List UInt8) (w : Watched Bus) (hf : ReleasesFail w.inner) :
    SameOwners w.inner (after (releaseEach h numbers) w).inner := by
  induction numbers generalizing w with
  | nil => exact ⟨fun _ => rfl, rfl⟩
  | cons number rest ih =>
    obtain ⟨hkept, hsame, -⟩ := releaseInterface_step (w := w) (h := h) number
    have hrest := ih (after (Backend.releaseInterface h number) w) (hkept.2 hf)
    rw [after_releaseEach_cons]
    exact ⟨fun i => (hrest.owner i).trans ((hsame hf).owner i),
      hrest.nextHandle.trans (hsame hf).nextHandle⟩

/-- Where releases work, all the interfaces of the list are given back and no others. -/
theorem releaseEach_working (numbers : List UInt8) (w : Watched Bus)
    (hf : ¬ ReleasesFail w.inner) (n : UInt8) :
    Holds (after (releaseEach h numbers) w).inner h n ↔ Holds w.inner h n ∧ n ∉ numbers := by
  induction numbers generalizing w with
  | nil => exact ⟨fun hn => ⟨hn, List.not_mem_nil⟩, And.left⟩
  | cons number rest ih =>
    obtain ⟨hkept, -, hworks⟩ := releaseInterface_step (w := w) (h := h) number
    have hrest := ih (after (Backend.releaseInterface h number) w) (mt hkept.1 hf)
    rw [after_releaseEach_cons, hrest, hworks hf, List.mem_cons, not_or, and_assoc, ne_comm]

end

section

variable {a : Attachment (Watched Bus)} {h : HandleId}

/-- The first half of a reset. The handle stays, nothing is counted any more, and what was counted
is still claimed if releases fail. -/
theorem abandoned_dispose (ho : Owned a.device a.bus.inner) (hh : a.device.held.handle = some h)
    (i : HandleId) (n : UInt8) :
    let e := after (dispose false) a
    e.device.held.handle = some h ∧
      (Abandoned e.device e.bus.inner i n ↔
        Abandoned a.device a.bus.inner i n ∨ Endangered a.device a.bus.inner i n) := by
  obtain ⟨released, hr⟩ := outcome_releaseAll a
  have hclosed : outcome (closeIf false) (after releaseAll a) = .ok (.ok ()) := rfl
  rw [(dispose_apply hr hclosed).2, closeIf, if_neg nofun, after_pure,
    after_congr (releaseAll_of_some hh), after_onBus]
  obtain ⟨claimed, hown, hsub⟩ := ho.opened h hh
  refine ⟨hh, ?_⟩
  by_cases hi : h = i
  · subst hi
    by_cases hf : ReleasesFail a.bus.inner
    · have hsame := releaseEach_failing (h := h) a.device.held.claimed.keys a.bus hf
      constructor
      · rintro ⟨-, hn, -⟩
        cases hc : a.device.held.claimed.contains n with
        | true => exact .inr ⟨hh, hc, hf⟩
        | false => exact .inl ⟨hh, (holds_congr (hsame.owner h)).1 hn, hc⟩
      · rintro (hx | hx)
        · exact ⟨hh, (holds_congr (hsame.owner h)).2 hx.holds, rfl⟩
        · exact ⟨hh, (holds_congr (hsame.owner h)).2 ((holds_of_owner hown).2 (hsub n hx.counted)),
            rfl⟩
    · have hworks := releaseEach_working (h := h) a.device.held.claimed.keys a.bus hf n
      rw [Table.mem_keys] at hworks
      constructor
      · rintro ⟨-, hn, -⟩
        obtain ⟨hn, hc⟩ := hworks.1 hn
        exact .inl ⟨hh, hn, Bool.eq_false_iff.2 hc⟩
      · rintro (hx | hx)
        · exact ⟨hh, hworks.2 ⟨hx.holds, Bool.eq_false_iff.1 hx.forgotten⟩, rfl⟩
        · exact absurd hx.failing hf
  · constructor
    · exact fun x => absurd (Option.some.inj (hh.symm.trans x.handle)) hi
    · rintro (hx | hx)
      · exact absurd (Option.some.inj (hh.symm.trans hx.handle)) hi
      · exact absurd (Option.some.inj (hh.symm.trans hx.handle)) hi

/-- To open a handle endangers nothing, since nothing is counted before it is open. -/
theorem abandoned_openHandle (ha : Allocated a.bus.inner) (ho : Owned a.device a.bus.inner)
    (i : HandleId) (n : UInt8) :
    let e := after openHandle a
    Abandoned e.device e.bus.inner i n ∨ Endangered e.device e.bus.inner i n ↔
      Abandoned a.device a.bus.inner i n ∨ Endangered a.device a.bus.inner i n := by
  cases hh : a.device.held.handle with
  | some h =>
    rw [(eq_ok_iff.1 (openHandle_of_some hh)).2]
  | none =>
    have hclaimed : (after openHandle a).device.held.claimed = ∅ := by
      rw [after_openHandle_of_none hh, ← ho.closed hh]
      cases outcome (Backend.openDevice a.device.id : Action (Watched Bus) HandleId) a.bus <;> rfl
    constructor
    · rintro (hx | hx)
      · exact .inl (((tally_openHandle a).2 ha ho).abandoned i n |>.1 hx).1
      · have hcounted := hx.counted
        rw [hclaimed] at hcounted
        cases hcounted
    · rintro (hx | hx)
      · exact absurd (hh.symm.trans hx.handle) nofun
      · exact absurd (hh.symm.trans hx.handle) nofun

/-- A reset loses count of what is counted while releases fail, and of nothing else. -/
theorem abandoned_reset (ha : Allocated a.bus.inner) (ho : Owned a.device a.bus.inner)
    (i : HandleId) (n : UInt8) :
    let e := after reset a
    Abandoned e.device e.bus.inner i n ↔
      (Abandoned a.device a.bus.inner i n ∨ Endangered a.device a.bus.inner i n) ∧
        e.device.held.handle = some i := by
  intro e
  obtain ⟨ha', ho', -⟩ := keeps_openHandle Watched.mirror_inner a ha ho
  have hsame : Abandoned _ _ i n ∨ Endangered _ _ i n ↔ _ := abandoned_openHandle ha ho i n
  rw [← hsame]
  cases hopen : outcome openHandle a with
  | error err =>
    have hnone : (after openHandle a).device.held.handle = none := by
      cases hh : a.device.held.handle with
      | some h =>
        rw [(eq_ok_iff.1 (openHandle_of_some hh)).1] at hopen
        cases hopen
      | none =>
        rw [outcome_openHandle_of_none hh] at hopen
        rw [after_openHandle_of_none hh, hopen]
        exact hh
    have he : e = after openHandle a := by
      change after reset a = after openHandle a
      rw [reset, after_bind, hopen]
    rw [he, hnone]
    exact ⟨fun x => absurd (hnone.symm.trans x.handle) nofun, fun x => absurd x.2 nofun⟩
  | ok h =>
    have hh := handle_after_openHandle hopen
    obtain ⟨hstays, hab⟩ := abandoned_dispose ho' hh i n
    obtain ⟨hd, hod, -⟩ := keeps_dispose Watched.mirror_inner false (after openHandle a) ha' ho'
    have he : e = after (dispose false >>= fun _ => onBus (Backend.resetDevice h) >>= fun _ =>
        dispose true) (after openHandle a) := after_bind_ok _ hopen
    rw [he, after_bind, ← hab]
    cases outcome (dispose false) (after openHandle a) with
    | error err => exact ⟨fun x => ⟨x, x.handle⟩, And.left⟩
    | ok u =>
      have hrest : Keeps tally (onBus (Backend.resetDevice h) >>= fun _ => dispose true :
          DeviceAction (Watched Bus) Unit) :=
        (Keeps.onBus fun d => tally_bus d (.resetDevice h) rfl).bind fun _ => tally_dispose
      exact ((hrest (after (dispose false) (after openHandle a))).2 hd hod).abandoned i n

/-- No claim is sent in the course of a reset. -/
theorem noClaim_reset : Keeps (logs NoClaim) (reset : DeviceAction (Watched Bus) Unit) :=
  keeps_of_simulates fun a => (unclaiming_logs a).reset

end

end SerialBus.Custody
