import SerialBus.Proofs.ClaimedTransfers

/-! What a device loses count of: interfaces that are claimed on its handle without being counted.
No step but a reset adds to them, and a claim on the bus meets a claimed interface only if the
device had lost count of it before. -/
namespace SerialBus.Custody

open SerialBus.Action Device Session
open Loopback (Bus)
open Loopback.Bus (SameOwners Reowned Ends Opens Closes Claims Releases)

/-- Whether an interface is claimed on a handle. -/
def Holds (b : Bus) (h : HandleId) (n : UInt8) : Prop :=
  ∃ held, b.handles.get? h = some held ∧ held.claimed.contains n = true

theorem holds_iff {b : Bus} {h : HandleId} {n : UInt8} :
    Holds b h n ↔ ∃ id claimed, b.owner h = some (id, claimed) ∧ claimed.contains n = true := by
  unfold Holds
  constructor
  · rintro ⟨held, hh, hn⟩
    exact ⟨held.device, held.claimed, Loopback.Bus.owner_eq_some.2 ⟨held, hh, rfl, rfl⟩, hn⟩
  · rintro ⟨id, claimed, ho, hn⟩
    obtain ⟨held, hh, -, rfl⟩ := Loopback.Bus.owner_eq_some.1 ho
    exact ⟨held, hh, hn⟩

/-- Of an open handle the owner tells what is claimed. -/
theorem holds_of_owner {b : Bus} {h : HandleId} {id : DeviceId} {claimed : ByteSet}
    (ho : b.owner h = some (id, claimed)) {n : UInt8} :
    Holds b h n ↔ claimed.contains n = true := by
  rw [holds_iff, ho]
  constructor
  · rintro ⟨_, _, he, hn⟩
    cases he
    exact hn
  · exact fun hn => ⟨id, claimed, rfl, hn⟩

theorem holds_congr {b c : Bus} {h : HandleId} (ho : c.owner h = b.owner h) {n : UInt8} :
    Holds c h n ↔ Holds b h n := by
  rw [holds_iff, holds_iff, ho]

/-- A claim adds one interface to what is held. -/
theorem holds_claims {b c : Bus} {h : HandleId} {number n : UInt8} (hc : Claims h number b c) :
    Holds c h n ↔ Holds b h n ∨ number = n := by
  obtain ⟨-, id, claimed, hown, -, hre⟩ := hc
  rw [holds_of_owner hre.owner, holds_of_owner hown, ByteSet.add]
  constructor
  · exact fun hn => (Table.contains_insert hn).symm.imp_right Eq.symm
  · rintro (hn | rfl)
    · exact Table.contains_insert_of_contains hn
    · exact Table.contains_insert_self

theorem not_holds_of_claims {b c : Bus} {h : HandleId} {number : UInt8}
    (hc : Claims h number b c) : ¬ Holds b h number := by
  obtain ⟨-, id, claimed, hown, hnot, -⟩ := hc
  rw [holds_of_owner hown, hnot]
  nofun

/-- A release takes one interface from what is held. -/
theorem holds_releases {b c : Bus} {h : HandleId} {number n : UInt8}
    (hr : Releases h number b c) : Holds c h n ↔ Holds b h n ∧ number ≠ n := by
  obtain ⟨-, id, claimed, hown, -, hre⟩ := hr
  rw [holds_of_owner hre.owner, holds_of_owner hown]
  by_cases hn : number = n
  · subst hn
    rw [Table.contains_erase_self]
    exact ⟨nofun, fun x => absurd rfl x.2⟩
  · rw [Table.contains_erase_of_ne hn]
    exact ⟨fun x => ⟨x, hn⟩, And.left⟩

/-- The device has the handle, on which the interface is claimed, but it does not count it. -/
structure Abandoned (d : Device) (b : Bus) (h : HandleId) (n : UInt8) : Prop where
  handle : d.held.handle = some h
  holds : Holds b h n
  forgotten : d.held.claimed.contains n = false

/-- The call is not a claim. -/
def NoClaim (c : BackendCall) : Prop := ∀ h n, c ≠ .claimInterface h n

/-- A stretch of a run that loses count of nothing. What is claimed a second time in it was lost
before. -/
structure Tally (a e : Attachment (Watched Bus)) : Prop where
  abandoned : ∀ h n, Abandoned e.device e.bus.inner h n ↔
    Abandoned a.device a.bus.inner h n ∧ e.device.held.handle = some h
  claims : ∃ sent, e.bus.log = a.bus.log ++ sent ∧ ∀ s ∈ sent, ∀ h n, s.call = .claimInterface h n →
    (a.device.held.handle = some h ∨ a.bus.inner.nextHandle ≤ h.number) ∧
      (Holds s.met h n ↔ Abandoned a.device a.bus.inner h n)

section

variable {a e k : Attachment (Watched Bus)}

theorem lt_of_owned {d : Device} {b : Bus} {h : HandleId} (ha : Allocated b) (ho : Owned d b)
    (hh : d.held.handle = some h) : h.number < b.nextHandle := by
  obtain ⟨claimed, hown, -⟩ := ho.opened h hh
  exact ha h (by rw [hown]; rfl)

/-- A handle that was held before and is held afterwards was held throughout. -/
theorem Frame.stays {d f : Device} {b c : Bus} (hf : Frame d b f c) {h : HandleId}
    (hlt : h.number < b.nextHandle) (hh : f.held.handle = some h) : d.held.handle = some h := by
  rcases hf.handle with hs | hs
  · exact hs ▸ hh
  · have := hs h hh
    omega

theorem Tally.refl (a : Attachment (Watched Bus)) : Tally a a :=
  ⟨fun h n => ⟨fun x => ⟨x, x.handle⟩, fun x => x.1⟩,
    [], (List.append_nil _).symm, fun s hs => (by cases hs)⟩

theorem Tally.trans (ha : Allocated a.bus.inner) (ho : Owned a.device a.bus.inner)
    (hf : Frame a.device a.bus.inner e.device e.bus.inner)
    (hg : Frame e.device e.bus.inner k.device k.bus.inner) (h : Tally a e) (g : Tally e k) :
    Tally a k := by
  have hstays : ∀ i n, Abandoned a.device a.bus.inner i n → i.number < e.bus.inner.nextHandle :=
    fun i n hab => Nat.lt_of_lt_of_le (lt_of_owned ha ho hab.handle) hf.nextHandle
  obtain ⟨sent, hs, hc⟩ := h.claims
  obtain ⟨more, hm, hd⟩ := g.claims
  refine ⟨fun i n => ?_, sent ++ more, by rw [hm, hs, List.append_assoc], fun s hmem i n hcall => ?_⟩
  · rw [g.abandoned, h.abandoned]
    constructor
    · exact fun x => ⟨x.1.1, x.2⟩
    · exact fun x => ⟨⟨x.1, hg.stays (hstays i n x.1) x.2⟩, x.2⟩
  · rcases List.mem_append.1 hmem with hmem | hmem
    · exact hc s hmem i n hcall
    · obtain ⟨hnamed, hheld⟩ := hd s hmem i n hcall
      constructor
      · rcases hnamed with he | hnew
        · by_cases hlt : i.number < a.bus.inner.nextHandle
          · exact .inl (hf.stays hlt he)
          · exact .inr (Nat.le_of_not_lt hlt)
        · exact .inr (Nat.le_trans hf.nextHandle hnew)
      · rw [hheld, h.abandoned]
        refine ⟨fun x => x.1, fun x => ⟨x, ?_⟩⟩
        rcases hnamed with he | hnew
        · exact he
        · have := hstays i n x
          omega

/-- The custody is kept, and nothing is lost count of. -/
def tally : Evolution (Attachment (Watched Bus)) where
  rel a e := (custody Watched.inner).rel a e ∧
    (Allocated a.bus.inner → Owned a.device a.bus.inner → Tally a e)
  refl a := ⟨(custody Watched.inner).refl a, fun _ _ => Tally.refl a⟩
  trans h g := by
    refine ⟨(custody Watched.inner).trans h.1 g.1, fun ha ho => ?_⟩
    obtain ⟨he, hoe, hf⟩ := h.1 ha ho
    obtain ⟨-, -, hg⟩ := g.1 he hoe
    exact Tally.trans ha ho hf hg (h.2 ha ho) (g.2 he hoe)

/-- Without a claim on the bus it is enough to look at what is lost count of. -/
theorem Tally.of_noClaim (hlog : (logs NoClaim).rel a e)
    (hab : ∀ h n, Abandoned e.device e.bus.inner h n ↔
      Abandoned a.device a.bus.inner h n ∧ e.device.held.handle = some h) : Tally a e := by
  obtain ⟨sent, hs, hp⟩ := hlog
  exact ⟨hab, sent, hs, fun s hmem h n hcall => absurd hcall (hp s hmem h n)⟩

/-- Nothing is lost count of where the owner of the handle and the counts stay. -/
theorem abandoned_of_same {d f : Device} {b c : Bus} {i : HandleId}
    (h : d.held.handle = some i → c.owner i = b.owner i)
    (hh : f.held.handle = d.held.handle)
    (hc : ∀ n, f.held.claimed.contains n = d.held.claimed.contains n) (n : UInt8) :
    Abandoned f c i n ↔ Abandoned d b i n ∧ f.held.handle = some i := by
  constructor
  · rintro ⟨h1, h2, h3⟩
    exact ⟨⟨hh ▸ h1, (holds_congr (h (hh ▸ h1))).1 h2, hc n ▸ h3⟩, h1⟩
  · rintro ⟨⟨h1, h2, h3⟩, he⟩
    exact ⟨he, (holds_congr (h h1)).2 h2, hc n ▸ h3⟩

/-- Nothing is lost count of where a count is changed that stays a count. -/
theorem abandoned_recounted {d : Device} (b : Bus) {number : UInt8} {level : Nat}
    (hc : d.held.claimed.contains number = true) (i : HandleId) (n : UInt8) :
    Abandoned { d with held := { d.held with claimed := d.held.claimed.insert number level } } b
      i n ↔ Abandoned d b i n ∧ d.held.handle = some i := by
  have hcount : ∀ m, (d.held.claimed.insert number level).contains m =
      d.held.claimed.contains m := by
    intro m
    by_cases hm : number = m
    · subst hm
      exact Table.contains_insert_self.trans hc.symm
    · exact Table.contains_insert_of_ne hm
  exact abandoned_of_same (d := d) (f := { d with held := { d.held with
    claimed := d.held.claimed.insert number level } }) (fun _ => rfl) rfl hcount n

/-- Nothing is lost count of where the handle goes. -/
theorem abandoned_of_none {d f : Device} {b c : Bus} (hh : f.held.handle = none) (i : HandleId)
    (n : UInt8) : Abandoned f c i n ↔ Abandoned d b i n ∧ f.held.handle = some i := by
  rw [hh]
  exact ⟨fun x => absurd (hh.symm.trans x.handle) nofun, fun x => absurd x.2 nofun⟩

end

variable {α : Type}

theorem noClaim_call {op : Operation α} (h : op.isClaim = false) : NoClaim op.call := by
  intro i n hc
  cases op with
  | claimInterface => cases h
  | _ => cases hc

theorem unclaiming_logs (a : Attachment (Watched Bus)) :
    Unclaiming .same ((logs NoClaim).from a) where
  name := rfl
  device := device_of_from
  openDevice d := (simulates_map_iff fun _ => rfl).2
    ((keeps_logs d (.openDevice d.id) (noClaim_call rfl)).simulates_on a)
  bus := fun d {_} op _ h _ => (keeps_logs d op (noClaim_call h)).simulates_on a
  modify f g hfg _ := by
    rw [Device.eq_of_same hfg]
    exact (keeps_logs_modify _ g).simulates a

theorem tally_bus (d : Device) (op : Operation α) (hq : op.changesOwners = false) :
    Keeps (tally.onBus d) (op.act : Action (Watched Bus) α) := by
  intro w
  have hsame := keeps_holders Watched.mirror_inner op hq w
  refine ⟨keeps_bus Watched.mirror_inner d op hq w, fun _ _ => Tally.of_noClaim ?_ fun i n => ?_⟩
  · exact keeps_logs d op (noClaim_call (Operation.isClaim_of_changesOwners hq)) w
  · exact abandoned_of_same (fun _ => hsame.owner i) rfl (fun _ => rfl) n

/-- A change of the device that keeps its handle and its claims. -/
theorem tally_modifyDevice {f : Device → Device}
    (hk : Keeps (custody Watched.inner) (modifyDevice f : DeviceAction (Watched Bus) Unit))
    (hf : ∀ d, (f d).held.handle = d.held.handle ∧ (f d).held.claimed = d.held.claimed) :
    Keeps tally (modifyDevice f : DeviceAction (Watched Bus) Unit) := fun a =>
  ⟨hk a, fun _ _ => Tally.of_noClaim (keeps_logs_modify _ f a) fun _ n =>
    abandoned_of_same (fun _ => rfl) (hf _).1 (fun m => by rw [(hf a.device).2]) n⟩

theorem tally_openHandle : Keeps tally (openHandle : DeviceAction (Watched Bus) HandleId) := by
  intro a
  refine ⟨keeps_openHandle Watched.mirror_inner a, fun _ _ => Tally.of_noClaim ?_ fun i n => ?_⟩
  · exact keeps_of_simulates (fun a => (simulates_map_iff fun _ => rfl).1 (unclaiming_logs a).openHandle) a
  · cases hh : a.device.held.handle with
    | some h =>
      rw [(eq_ok_iff.1 (openHandle_of_some hh)).2]
      exact abandoned_of_same (fun _ => rfl) rfl (fun _ => rfl) n
    | none =>
      have hend := ends_openDevice Watched.mirror_inner a.device.id a.bus
      rw [after_openHandle_of_none hh]
      cases hr : outcome (Backend.openDevice a.device.id : Action (Watched Bus) HandleId) a.bus with
      | error e => exact abandoned_of_none hh i n
      | ok h =>
        rw [hr] at hend
        cases hend with
        | done hopens =>
          -- The new handle holds nothing, and the device had none before.
          obtain ⟨-, hre, -⟩ := hopens
          constructor
          · rintro ⟨hi, hholds, -⟩
            cases hi
            exact absurd ((holds_of_owner hre.owner).1 hholds) nofun
          · exact fun x => absurd (hh.symm.trans x.1.handle) nofun

/-- The claim of an interface and the count of it. The claim is sent if none is counted. -/
private theorem tally_claim {a : Attachment (Watched Bus)} {h : HandleId} (number : UInt8)
    (level : Nat → Nat) (hh : a.device.held.handle = some h) :
    Tally a (after (claimOnce h number >>= fun _ => modifyHeld fun held => { held with
      claimed := held.claimed.insert number (level ((held.claimed.get? number).getD 0)) }) a) := by
  cases hc : a.device.held.claimed.contains number with
  | true =>
    obtain ⟨ho, ha⟩ := eq_ok_iff.1 (claimOnce_of_claimed (h := h) hc)
    rw [after_bind_ok _ ho, ha]
    exact Tally.of_noClaim (keeps_logs_modify _ _ a) (abandoned_recounted _ hc)
  | false =>
    have hend := ends_claimInterface Watched.mirror_inner h number a.bus
    have hlog : (after (Backend.claimInterface h number : Action (Watched Bus) Unit) a.bus).log =
        a.bus.log ++ [⟨.claimInterface h number, a.bus.inner⟩] :=
      congrArg Watched.log (Watched.after_watch _ _ _)
    have hsent : ∀ s ∈ [(⟨.claimInterface h number, a.bus.inner⟩ : Sent Bus)], ∀ i n,
        s.call = .claimInterface i n →
          (a.device.held.handle = some i ∨ a.bus.inner.nextHandle ≤ i.number) ∧
            (Holds s.met i n ↔ Abandoned a.device a.bus.inner i n) := by
      intro s hs i n hcall
      cases List.mem_singleton.1 hs
      cases hcall
      exact ⟨.inl hh, fun hholds => ⟨hh, hholds, hc⟩, Abandoned.holds⟩
    rw [after_bind, outcome_congr (claimOnce_of_unclaimed hc),
      after_congr (claimOnce_of_unclaimed hc), outcome_onBus, after_onBus]
    cases hr : outcome (Backend.claimInterface h number : Action (Watched Bus) Unit) a.bus with
    | error e =>
      rw [hr] at hend
      cases hend with
      | failed hsame =>
        exact ⟨fun i n => abandoned_of_same (fun _ => hsame.owner i) rfl (fun _ => rfl) n,
          _, hlog, hsent⟩
    | ok u =>
      rw [hr] at hend
      cases hend with
      | done hclaims =>
        refine ⟨fun i n => ?_, _, hlog, hsent⟩
        by_cases hi : h = i
        · subst hi
          by_cases hn : number = n
          · subst hn
            constructor
            · exact fun x => absurd (Table.contains_insert_self.symm.trans x.forgotten) nofun
            · exact fun x => absurd x.1.holds (not_holds_of_claims hclaims)
          · have hforgotten : ∀ v : Nat, (a.device.held.claimed.insert number v).contains n =
                a.device.held.claimed.contains n := fun v => Table.contains_insert_of_ne hn
            constructor
            · rintro ⟨-, h2, h3⟩
              exact ⟨⟨hh, ((holds_claims hclaims).1 h2).resolve_right hn,
                (hforgotten _).symm.trans h3⟩, hh⟩
            · rintro ⟨⟨-, h2, h3⟩, -⟩
              exact ⟨hh, (holds_claims hclaims).2 (.inl h2), (hforgotten _).trans h3⟩
        · constructor
          · exact fun x => absurd (Option.some.inj (hh.symm.trans x.handle)) hi
          · exact fun x => absurd (Option.some.inj (hh.symm.trans x.1.handle)) hi

theorem tally_acquire (number : UInt8) {level : Nat → Nat} (hl : ∀ n, 1 ≤ level n) :
    Keeps tally (acquire number level : DeviceAction (Watched Bus) Unit) := by
  rw [acquire_eq]
  refine tally_openHandle.bindFrom fun a h ho => ?_
  have hh := handle_after_openHandle ho
  exact ⟨custody_claim Watched.mirror_inner number hl hh, fun _ _ => tally_claim number level hh⟩

/-- The last claim goes on both sides, and only if the backend lets it go. -/
private theorem abandoned_release {a : Attachment (Watched Bus)} {h : HandleId} {number : UInt8}
    (hh : a.device.held.handle = some h) (hc : a.device.held.claimed.contains number = true)
    (i : HandleId) (n : UInt8) :
    let e := after (onBus (Backend.releaseInterface h number) >>= fun _ =>
      modifyHeld fun held => { held with claimed := held.claimed.erase number }) a
    Abandoned e.device e.bus.inner i n ↔
      Abandoned a.device a.bus.inner i n ∧ e.device.held.handle = some i := by
  have hend := ends_releaseInterface Watched.mirror_inner h number a.bus
  rw [after_bind, outcome_onBus, after_onBus]
  cases hr : outcome (Backend.releaseInterface h number : Action (Watched Bus) Unit) a.bus with
  | error e =>
    rw [hr] at hend
    cases hend with
    | failed hsame => exact abandoned_of_same (fun _ => hsame.owner i) rfl (fun _ => rfl) n
  | ok u =>
    rw [hr] at hend
    cases hend with
    | done hreleases =>
      by_cases hi : h = i
      · subst hi
        by_cases hn : number = n
        · subst hn
          constructor
          · exact fun x => absurd rfl ((holds_releases hreleases).1 x.holds).2
          · exact fun x => absurd (hc.symm.trans x.1.forgotten) nofun
        · have hforgotten : (a.device.held.claimed.erase number).contains n =
              a.device.held.claimed.contains n := Table.contains_erase_of_ne hn
          constructor
          · rintro ⟨-, h2, h3⟩
            exact ⟨⟨hh, ((holds_releases hreleases).1 h2).1, hforgotten.symm.trans h3⟩, hh⟩
          · rintro ⟨⟨-, h2, h3⟩, -⟩
            exact ⟨hh, (holds_releases hreleases).2 ⟨h2, hn⟩, hforgotten.trans h3⟩
      · constructor
        · exact fun x => absurd (Option.some.inj (hh.symm.trans x.handle)) hi
        · exact fun x => absurd (Option.some.inj (hh.symm.trans x.1.handle)) hi

theorem tally_release (number : UInt8) :
    Keeps tally (release (.number number) : DeviceAction (Watched Bus) Unit) := by
  intro a
  refine ⟨keeps_release Watched.mirror_inner number a, fun _ ho => Tally.of_noClaim ?_ fun i n => ?_⟩
  · exact keeps_of_simulates (fun a => (unclaiming_logs a).release number) a
  · cases hl : a.device.held.claimed.get? number with
    | none =>
      rw [(eq_ok_iff.1 (release_of_none hl)).2]
      exact abandoned_of_same (fun _ => rfl) rfl (fun _ => rfl) n
    | some level =>
      have hc : a.device.held.claimed.contains number = true := by
        rw [Table.contains_eq_isSome, hl]
        rfl
      by_cases h1 : 1 < level
      · rw [(eq_ok_iff.1 (release_of_many hl h1)).2]
        exact abandoned_recounted _ hc i n
      · cases hh : a.device.held.handle with
        | some h =>
          rw [after_congr (release_of_last hl h1 hh)]
          exact abandoned_release hh hc i n
        | none =>
          rw [ho.closed hh] at hl
          cases hl

theorem tally_dispose : Keeps tally (dispose true : DeviceAction (Watched Bus) Unit) := fun a =>
  ⟨keeps_dispose Watched.mirror_inner true a, fun _ _ => Tally.of_noClaim
    (keeps_of_simulates (fun a => (unclaiming_logs a).dispose true) a)
    (abandoned_of_none (handle_after_dispose a))⟩

/-- All that a device does but a reset is put together from what loses count of nothing. -/
theorem parts_tally : KeepsParts tally where
  bus d {_} op hc := tally_bus d op hc
  remember hf := tally_modifyDevice (keeps_remember hf) fun d =>
    ⟨hf.handle_eq d.held, hf.claimed d.held⟩
  setTimeout n := tally_modifyDevice (keeps_setTimeout n) fun _ => ⟨rfl, rfl⟩
  openHandle := tally_openHandle
  acquire number _ hl := tally_acquire number hl
  release := tally_release
  dispose := tally_dispose

end SerialBus.Custody
