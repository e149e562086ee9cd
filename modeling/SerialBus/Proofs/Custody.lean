import SerialBus.Proofs.Device.Effects
import SerialBus.Proofs.Evolution
import SerialBus.Proofs.Loopback.Owners
import SerialBus.Proofs.Watched

/-! What a device believes to hold is what it holds on its bus. Each step that ownership is changed
by keeps this, and touches no handle but that of the device. -/
namespace SerialBus.Custody

open SerialBus.Action Device
open Loopback (Bus)
open Loopback.Bus (SameOwners Reowned Ends Opens Closes Claims Releases)

/-- Only handles that were given out are open. -/
def Allocated (b : Bus) : Prop := ∀ h, (b.owner h).isSome → h.number < b.nextHandle

/-- A device without a handle claims nothing, each of its claims counts at least once, and its
handle is open for it with all that it has claimed. -/
structure Owned (d : Device) (b : Bus) : Prop where
  closed : d.held.handle = none → d.held.claimed = ∅
  depth : ∀ n level, d.held.claimed.get? n = some level → 1 ≤ level
  opened : ∀ h, d.held.handle = some h → ∃ claimed, b.owner h = some (d.id, claimed) ∧
    ∀ n, d.held.claimed.contains n = true → claimed.contains n = true

/-- How far a step of a device reaches: its handle stays or is a new one, and no other changes. -/
structure Frame (d : Device) (b : Bus) (e : Device) (c : Bus) : Prop where
  id : e.id = d.id
  nextHandle : b.nextHandle ≤ c.nextHandle
  handle : e.held.handle = d.held.handle ∨
    ∀ h, e.held.handle = some h → b.nextHandle ≤ h.number
  others : ∀ h, h.number < b.nextHandle → d.held.handle ≠ some h → c.owner h = b.owner h

theorem Frame.refl (d : Device) (b : Bus) : Frame d b d b :=
  ⟨rfl, Nat.le_refl _, .inl rfl, fun _ _ _ => rfl⟩

theorem Frame.trans {d e f : Device} {b c k : Bus} (h : Frame d b e c) (g : Frame e c f k) :
    Frame d b f k := by
  have hstays : ∀ i : HandleId, i.number < b.nextHandle → d.held.handle ≠ some i →
      e.held.handle ≠ some i := by
    intro i hi hd he
    rcases h.handle with hs | hs
    · exact hd (hs ▸ he)
    · have := hs i he
      omega
  refine ⟨g.id.trans h.id, Nat.le_trans h.nextHandle g.nextHandle, ?_, fun i hi hd => ?_⟩
  · rcases g.handle with hs | hs
    · rw [hs]
      exact h.handle
    · exact .inr fun i hi => Nat.le_trans h.nextHandle (hs i hi)
  · rw [g.others i (Nat.lt_of_lt_of_le hi h.nextHandle) (hstays i hi hd), h.others i hi hd]

variable {σ α : Type}

/-- What is sound stays sound, and the step keeps to its frame. -/
def custody (view : σ → Bus) : Evolution (Attachment σ) where
  rel a e := Allocated (view a.bus) → Owned a.device (view a.bus) →
    Allocated (view e.bus) ∧ Owned e.device (view e.bus) ∧
      Frame a.device (view a.bus) e.device (view e.bus)
  refl a ha ho := ⟨ha, ho, Frame.refl _ _⟩
  trans h g ha ho := by
    obtain ⟨he, hoe, hf⟩ := h ha ho
    obtain ⟨hk, hok, hg⟩ := g he hoe
    exact ⟨hk, hok, hf.trans hg⟩

/-- The buses before and after have the same owners. -/
def holders (view : σ → Bus) : Evolution σ where
  rel s t := SameOwners (view s) (view t)
  refl _ := ⟨fun _ => rfl, rfl⟩
  trans h g := ⟨fun i => (g.owner i).trans (h.owner i), g.nextHandle.trans h.nextHandle⟩

section

variable {view : σ → Bus} {a e : Attachment σ}

theorem allocated_of_same {b c : Bus} (h : SameOwners b c) (ha : Allocated b) : Allocated c := by
  intro i hi
  rw [h.owner] at hi
  rw [h.nextHandle]
  exact ha i hi

/-- A step that changes no owners and claims no more than before. -/
theorem custody_of_fewer (h : SameOwners (view a.bus) (view e.bus))
    (hid : e.device.id = a.device.id) (hh : e.device.held.handle = a.device.held.handle)
    (hsub : ∀ n, e.device.held.claimed.contains n = true →
      a.device.held.claimed.contains n = true)
    (hclosed : a.device.held.claimed = ∅ → e.device.held.claimed = ∅)
    (hdepth : Owned a.device (view a.bus) →
      ∀ n level, e.device.held.claimed.get? n = some level → 1 ≤ level) :
    (custody view).rel a e := by
  intro ha ho
  refine ⟨allocated_of_same h ha, ⟨?_, hdepth ho, ?_⟩,
    ⟨hid, Nat.le_of_eq h.nextHandle.symm, .inl hh, ?_⟩⟩
  · rw [hh]
    exact fun hnone => hclosed (ho.closed hnone)
  · rw [hh, hid]
    intro i hi
    rw [h.owner]
    obtain ⟨claimed, hown, hc⟩ := ho.opened i hi
    exact ⟨claimed, hown, fun n hn => hc n (hsub n hn)⟩
  · intro i _ _
    exact h.owner i

/-- A step that changes neither owners nor what the device holds. -/
theorem custody_of_same (h : SameOwners (view a.bus) (view e.bus))
    (hid : e.device.id = a.device.id) (hh : e.device.held.handle = a.device.held.handle)
    (hc : e.device.held.claimed = a.device.held.claimed) : (custody view).rel a e :=
  custody_of_fewer h hid hh (by rw [hc]; exact fun _ => id) (by rw [hc]; exact id)
    (by rw [hc]; exact Owned.depth)

/-- A step after which the device holds nothing. -/
theorem custody_of_none (hn : (view e.bus).nextHandle = (view a.bus).nextHandle)
    (hother : ∀ i, a.device.held.handle ≠ some i → (view e.bus).owner i = (view a.bus).owner i)
    (hopen : ∀ i, ((view e.bus).owner i).isSome → ((view a.bus).owner i).isSome)
    (hid : e.device.id = a.device.id) (hh : e.device.held.handle = none)
    (hc : e.device.held.claimed = ∅) : (custody view).rel a e := by
  intro ha ho
  refine ⟨fun i hi => hn ▸ ha i (hopen i hi), ⟨fun _ => hc, ?_, ?_⟩,
    ⟨hid, Nat.le_of_eq hn.symm, .inr ?_, fun i _ => hother i⟩⟩
  · intro n level hl
    rw [hc] at hl
    cases hl
  · intro i hi
    rw [hh] at hi
    cases hi
  · intro i hi
    rw [hh] at hi
    cases hi

/-- A step that opens a handle for a device that has none. -/
theorem custody_of_opened {h : HandleId} (hh : a.device.held.handle = none)
    (hopens : Opens a.device.id h (view a.bus) (view e.bus))
    (hid : e.device.id = a.device.id) (he : e.device.held.handle = some h)
    (hc : e.device.held.claimed = a.device.held.claimed) : (custody view).rel a e := by
  obtain ⟨rfl, hre, hnext⟩ := hopens
  intro ha ho
  refine ⟨?_, ⟨?_, ?_, ?_⟩, ⟨hid, ?_, .inr ?_, ?_⟩⟩
  · intro i hi
    by_cases hi' : i = ⟨(view a.bus).nextHandle⟩
    · rw [hi', hnext]
      exact Nat.lt_succ_self _
    · rw [hre.others i hi'] at hi
      have := ha i hi
      omega
  · intro hnone
    rw [he] at hnone
    cases hnone
  · rw [hc, ho.closed hh]
    intro n level hl
    cases hl
  · intro i hi
    rw [he] at hi
    cases hi
    refine ⟨∅, hid ▸ hre.owner, fun n hn => ?_⟩
    rw [hc, ho.closed hh] at hn
    cases hn
  · omega
  · intro i hi
    rw [he] at hi
    cases hi
    exact Nat.le_refl _
  · intro i hi _
    refine hre.others i fun hi' => ?_
    rw [hi'] at hi
    exact Nat.lt_irrefl _ hi

/-- A step on the handle of the device, with what is then claimed on both sides. -/
theorem custody_of_own {h : HandleId} {claimed : ByteSet} (hh : a.device.held.handle = some h)
    (hn : (view e.bus).nextHandle = (view a.bus).nextHandle)
    (hother : ∀ i, i ≠ h → (view e.bus).owner i = (view a.bus).owner i)
    (hown : (view e.bus).owner h = some (a.device.id, claimed))
    (hid : e.device.id = a.device.id) (he : e.device.held.handle = some h)
    (hdepth : Owned a.device (view a.bus) →
      ∀ n level, e.device.held.claimed.get? n = some level → 1 ≤ level)
    (hsub : Owned a.device (view a.bus) →
      ∀ n, e.device.held.claimed.contains n = true → claimed.contains n = true) :
    (custody view).rel a e := by
  intro ha ho
  refine ⟨?_, ⟨?_, hdepth ho, ?_⟩, ⟨hid, Nat.le_of_eq hn.symm, .inl (he.trans hh.symm), ?_⟩⟩
  · intro i hi
    rw [hn]
    by_cases hih : i = h
    · subst hih
      obtain ⟨c, hc, -⟩ := ho.opened i hh
      exact ha i (by rw [hc]; rfl)
    · rw [hother i hih] at hi
      exact ha i hi
  · intro hnone
    rw [he] at hnone
    cases hnone
  · intro i hi
    have hih : h = i := Option.some.inj (he.symm.trans hi)
    subst hih
    exact ⟨claimed, by rw [hown, hid], hsub ho⟩
  · intro i _ hi
    exact hother i fun hih => hi (hih ▸ hh)

end

variable [Backend σ] {view : σ → Bus}

section

variable (m : Mirror view)

include m

theorem keeps_holders (op : Operation α) (hq : op.changesOwners = false) :
    Keeps (holders view) (op.act : Action σ α) := by
  intro s
  change SameOwners (view s) (view (after op.act s))
  rw [(m.act op s).2]
  exact Loopback.Bus.sameOwners_act op hq (view s)

theorem keeps_bus (d : Device) (op : Operation α) (hq : op.changesOwners = false) :
    Keeps ((custody view).onBus d) (op.act : Action σ α) := fun s =>
  custody_of_same (keeps_holders m op hq s) rfl rfl rfl

theorem ends_openDevice (id : DeviceId) (s : σ) :
    Ends (Opens id) (view s) (outcome (Backend.openDevice id : Action σ HandleId) s)
      (view (after (Backend.openDevice id : Action σ HandleId) s)) := by
  obtain ⟨ho, ha⟩ := m.act (.openDevice id) s
  rw [Operation.act] at ho ha
  rw [ho, ha]
  exact Loopback.Bus.ends_openDevice (view s) id

theorem ends_closeDevice (h : HandleId) (s : σ) :
    Ends (fun _ => Closes h) (view s) (outcome (Backend.closeDevice h : Action σ Unit) s)
      (view (after (Backend.closeDevice h : Action σ Unit) s)) := by
  obtain ⟨ho, ha⟩ := m.act (.closeDevice h) s
  rw [Operation.act] at ho ha
  rw [ho, ha]
  exact Loopback.Bus.ends_closeDevice (view s) h

theorem ends_claimInterface (h : HandleId) (number : UInt8) (s : σ) :
    Ends (fun _ => Claims h number) (view s)
      (outcome (Backend.claimInterface h number : Action σ Unit) s)
      (view (after (Backend.claimInterface h number : Action σ Unit) s)) := by
  obtain ⟨ho, ha⟩ := m.act (.claimInterface h number) s
  rw [Operation.act] at ho ha
  rw [ho, ha]
  exact Loopback.Bus.ends_claimInterface (view s) h number

theorem ends_releaseInterface (h : HandleId) (number : UInt8) (s : σ) :
    Ends (fun _ => Releases h number) (view s)
      (outcome (Backend.releaseInterface h number : Action σ Unit) s)
      (view (after (Backend.releaseInterface h number : Action σ Unit) s)) := by
  obtain ⟨ho, ha⟩ := m.act (.releaseInterface h number) s
  rw [Operation.act] at ho ha
  rw [ho, ha]
  exact Loopback.Bus.ends_releaseInterface (view s) h number

/-- A new handle is open for the device, with nothing claimed on it. -/
theorem keeps_openHandle : Keeps (custody view) (openHandle : DeviceAction σ HandleId) := by
  apply keeps_opening
  intro a hh
  have hend := ends_openDevice m a.device.id a.bus
  rw [after_openHandle_of_none hh]
  cases hr : outcome (Backend.openDevice a.device.id : Action σ HandleId) a.bus with
  | error e =>
    rw [hr] at hend
    cases hend with
    | failed hsame => exact custody_of_same hsame rfl rfl rfl
  | ok h =>
    rw [hr] at hend
    cases hend with
    | done hopens => exact custody_of_opened hh hopens rfl rfl rfl

/-- A claim on the backend and the count of it, on the handle of the device. -/
theorem custody_claim {a : Attachment σ} {h : HandleId} (number : UInt8) {level : Nat → Nat}
    (hl : ∀ n, 1 ≤ level n) (hh : a.device.held.handle = some h) :
    (custody view).rel a (after (claimOnce h number >>= fun _ => modifyHeld fun held => { held with
      claimed := held.claimed.insert number (level ((held.claimed.get? number).getD 0)) }) a) := by
  have hdepth : Owned a.device (view a.bus) → ∀ n depth,
      (a.device.held.claimed.insert number
        (level ((a.device.held.claimed.get? number).getD 0))).get? n = some depth → 1 ≤ depth := by
    intro ho n depth hn
    by_cases hk : number = n
    · subst hk
      rw [Table.get?_insert_self] at hn
      cases hn
      exact hl _
    · rw [Table.get?_insert_of_ne hk] at hn
      exact ho.depth n depth hn
  cases hc : a.device.held.claimed.contains number with
  | true =>
    obtain ⟨ho, ha⟩ := eq_ok_iff.1 (claimOnce_of_claimed (h := h) hc)
    rw [after_bind_ok _ ho, ha]
    refine custody_of_fewer ⟨fun _ => rfl, rfl⟩ rfl rfl (fun n hn => ?_) (fun hempty => ?_) hdepth
    · rcases Table.contains_insert hn with rfl | hn
      · exact hc
      · exact hn
    · rw [hempty] at hc
      cases hc
  | false =>
    have hend := ends_claimInterface m h number a.bus
    rw [after_bind, outcome_congr (claimOnce_of_unclaimed hc),
      after_congr (claimOnce_of_unclaimed hc), outcome_onBus, after_onBus]
    cases hr : outcome (Backend.claimInterface h number : Action σ Unit) a.bus with
    | error e =>
      rw [hr] at hend
      cases hend with
      | failed hsame => exact custody_of_same hsame rfl rfl rfl
    | ok u =>
      rw [hr] at hend
      cases hend with
      | done hclaims =>
        obtain ⟨hn, id, claimed, hown, -, hre⟩ := hclaims
        intro ha ho
        obtain ⟨claimed', hown', hsub⟩ := ho.opened h hh
        obtain ⟨rfl, rfl⟩ := Prod.mk.inj (Option.some.inj (hown.symm.trans hown'))
        refine custody_of_own hh hn hre.others hre.owner rfl hh hdepth (fun _ n hn => ?_) ha ho
        rcases Table.contains_insert hn with rfl | hn
        · exact Table.contains_insert_self
        · exact Table.contains_insert_of_contains (hsub n hn)

theorem keeps_acquire (number : UInt8) {level : Nat → Nat} (hl : ∀ n, 1 ≤ level n) :
    Keeps (custody view) (acquire number level : DeviceAction σ Unit) := by
  rw [acquire_eq]
  exact (keeps_openHandle m).bindFrom fun a h ho =>
    custody_claim m number hl (handle_after_openHandle ho)

/-- The last claim goes on both sides, and only if the backend lets it go. -/
theorem custody_release {a : Attachment σ} {h : HandleId} (number : UInt8)
    (hh : a.device.held.handle = some h) :
    (custody view).rel a (after (onBus (Backend.releaseInterface h number) >>= fun _ =>
      modifyHeld fun held => { held with claimed := held.claimed.erase number }) a) := by
  have hend := ends_releaseInterface m h number a.bus
  rw [after_bind, outcome_onBus, after_onBus]
  cases hr : outcome (Backend.releaseInterface h number : Action σ Unit) a.bus with
  | error e =>
    rw [hr] at hend
    cases hend with
    | failed hsame => exact custody_of_same hsame rfl rfl rfl
  | ok u =>
    rw [hr] at hend
    cases hend with
    | done hreleases =>
      obtain ⟨hn, id, claimed, hown, -, hre⟩ := hreleases
      intro ha ho
      obtain ⟨claimed', hown', hsub⟩ := ho.opened h hh
      obtain ⟨rfl, rfl⟩ := Prod.mk.inj (Option.some.inj (hown.symm.trans hown'))
      refine custody_of_own hh hn hre.others hre.owner rfl hh (fun _ n level hl => ?_)
        (fun _ n hn => ?_) ha ho
      · by_cases hk : number = n
        · subst hk
          rw [after_modifyHeld, Table.get?_erase_self] at hl
          cases hl
        · rw [after_modifyHeld, Table.get?_erase_of_ne hk] at hl
          exact ho.depth n level hl
      · by_cases hk : number = n
        · subst hk
          rw [after_modifyHeld, Table.contains_erase_self] at hn
          cases hn
        · rw [after_modifyHeld, Table.contains_erase_of_ne hk] at hn
          rw [Table.contains_erase_of_ne hk]
          exact hsub n hn

theorem keeps_release (number : UInt8) :
    Keeps (custody view) (release (.number number) : DeviceAction σ Unit) := by
  intro a
  cases hl : a.device.held.claimed.get? number with
  | none =>
    rw [(eq_ok_iff.1 (release_of_none hl)).2]
    exact (custody view).refl a
  | some level =>
    by_cases h1 : 1 < level
    · rw [(eq_ok_iff.1 (release_of_many hl h1)).2]
      have hc : a.device.held.claimed.contains number = true := by
        rw [Table.contains_eq_isSome, hl]
        rfl
      refine custody_of_fewer ⟨fun _ => rfl, rfl⟩ rfl rfl (fun n hn => ?_) (fun hempty => ?_)
        (fun ho n depth hn => ?_)
      · rcases Table.contains_insert hn with rfl | hn
        · exact hc
        · exact hn
      · rw [hempty] at hc
        cases hc
      · by_cases hk : number = n
        · subst hk
          rw [Attachment.hold, Table.get?_insert_self] at hn
          cases hn
          omega
        · rw [Attachment.hold, Table.get?_insert_of_ne hk] at hn
          exact ho.depth n depth hn
    · cases hh : a.device.held.handle with
      | some h =>
        rw [after_congr (release_of_last hl h1 hh)]
        exact custody_release m number hh
      | none =>
        intro ha ho
        rw [ho.closed hh] at hl
        cases hl

theorem keeps_closeHandle : Keeps (custody view) (closeHandle : DeviceAction σ Unit) := by
  intro a
  cases hh : a.device.held.handle with
  | none =>
    rw [(eq_ok_iff.1 (closeHandle_of_none hh)).2]
    exact (custody view).refl a
  | some h =>
    have hend := ends_closeDevice m h a.bus
    rw [after_congr (closeHandle_of_some hh), after_onBus]
    cases hr : outcome (Backend.closeDevice h : Action σ Unit) a.bus with
    | error e =>
      rw [hr] at hend
      cases hend with
      | failed hsame =>
        exact custody_of_none hsame.nextHandle (fun i _ => hsame.owner i)
          (fun i hi => hsame.owner i ▸ hi) rfl rfl rfl
    | ok u =>
      rw [hr] at hend
      cases hend with
      | done hcloses =>
        obtain ⟨hre, hn⟩ := hcloses
        refine custody_of_none hn (fun i hi => hre.others i fun hih => hi (hih ▸ hh))
          (fun i hi => ?_) rfl rfl rfl
        by_cases hih : i = h
        · subst hih
          rw [Attachment.hold, hre.owner] at hi
          cases hi
        · rw [Attachment.hold, hre.others i hih] at hi
          exact hi

/-- A device that counts no claims may release whatever is claimed on its handle. -/
theorem keeps_releaseEach (d : Device) {h : HandleId} (hh : d.held.handle = some h)
    (hc : d.held.claimed = ∅) (numbers : List UInt8) :
    Keeps ((custody view).onBus d) (releaseEach h numbers : Action σ (Option UsbError)) := by
  induction numbers with
  | nil => exact keeps_pure _
  | cons number rest ih =>
    have hone : Keeps ((custody view).onBus d)
        (Backend.releaseInterface h number : Action σ Unit) := by
      intro s
      have hend := ends_releaseInterface m h number s
      cases hr : outcome (Backend.releaseInterface h number : Action σ Unit) s with
      | error e =>
        rw [hr] at hend
        cases hend with
        | failed hsame => exact custody_of_same hsame rfl rfl rfl
      | ok u =>
        rw [hr] at hend
        cases hend with
        | done hreleases =>
          obtain ⟨hn, id, claimed, hown, -, hre⟩ := hreleases
          intro ha ho
          obtain ⟨claimed', hown', -⟩ := ho.opened h hh
          obtain ⟨rfl, rfl⟩ := Prod.mk.inj (Option.some.inj (hown.symm.trans hown'))
          refine custody_of_own hh hn hre.others hre.owner rfl hh (fun ho => ho.depth)
            (fun _ n hn => ?_) ha ho
          rw [hc] at hn
          cases hn
    refine hone.attempted.bind fun first => ih.bind fun later => ?_
    cases first with
    | error e => exact keeps_pure _
    | ok u => exact keeps_pure _

theorem keeps_releaseAll :
    Keeps (custody view) (releaseAll : DeviceAction σ (Option UsbError)) := by
  intro a
  have hforget : (custody view).rel a (a.hold ({ · with claimed := ∅ }) a.bus) :=
    custody_of_fewer ⟨fun _ => rfl, rfl⟩ rfl rfl (fun n hn => by cases hn) (fun _ => rfl)
      fun _ n level hl => by cases hl
  cases hh : a.device.held.handle with
  | none =>
    rw [(eq_ok_iff.1 (releaseAll_of_none hh)).2]
    exact hforget
  | some h =>
    rw [after_congr (releaseAll_of_some hh), after_onBus]
    have heach := keeps_releaseEach m (a.hold ({ · with claimed := ∅ }) a.bus).device hh rfl
      a.device.held.claimed.keys a.bus
    exact (custody view).trans hforget heach

omit [Backend σ] m in
theorem keeps_remember {f : Holdings → Holdings} (hf : RemembersOnly f) :
    Keeps (custody view) (modifyHeld f : DeviceAction σ Unit) := fun _ =>
  custody_of_same ⟨fun _ => rfl, rfl⟩ rfl (hf.handle_eq _) (hf.claimed _)

omit [Backend σ] m in
theorem keeps_setTimeout (n : Nat) : Keeps (custody view)
    (modifyDevice ({ · with defaultTimeout := n }) : DeviceAction σ Unit) := fun _ =>
  custody_of_same ⟨fun _ => rfl, rfl⟩ rfl rfl rfl

theorem keeps_dispose (close : Bool) :
    Keeps (custody view) (dispose close : DeviceAction σ Unit) := by
  rw [dispose_eq]
  refine (keeps_releaseAll m).bind fun released => ?_
  have hclosed : Keeps (custody view) (closeIf close : DeviceAction σ _) :=
    keeps_ite (keeps_closeHandle m).attempted (keeps_pure _)
  refine hclosed.bind fun closed => Keeps.bind (keeps_remember ?_) fun _ => keeps_liftResult _
  exact ⟨fun _ _ => rfl, fun _ => rfl⟩

theorem keeps_reset : Keeps (custody view) (reset : DeviceAction σ Unit) :=
  (keeps_openHandle m).bind fun h => (keeps_dispose m false).bind fun _ =>
    (Keeps.onBus fun d => keeps_bus m d (.resetDevice h) rfl).bind fun _ => keeps_dispose m true

/-- All that a device does is put together from what keeps the custody. -/
theorem parts_custody : KeepsParts (custody view) where
  bus d {_} op hc := keeps_bus m d op hc
  remember hf := keeps_remember hf
  setTimeout := keeps_setTimeout
  openHandle := keeps_openHandle m
  acquire number _ hl := keeps_acquire m number hl
  release := keeps_release m
  dispose := keeps_dispose m true

end

end SerialBus.Custody
