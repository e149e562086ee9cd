import SerialBus.Proofs.Claims.Settled
import SerialBus.Proofs.Session.Sharing

/-! The accounts of a bus that is used through devices only: each open handle is held by exactly one
of them, and what is claimed on it is what this device has claimed. -/
namespace SerialBus.Custody

open SerialBus.Action Device Session
open Loopback (Bus)
open Loopback.Bus (SameOwners)

/-- The devices do not hold the same handle. -/
def Apart (d e : Device) : Prop := ∀ h, d.held.handle = some h → e.held.handle ≠ some h

theorem Apart.symm {d e : Device} (h : Apart d e) : Apart e d := fun i he hd => h i hd he

/-- All that is open or claimed on the bus is held by one of the devices and by no other. -/
structure Accounts (ds : List Device) (b : Bus) : Prop where
  sparing : Sparing b
  allocated : Allocated b
  owned : ∀ d ∈ ds, Owned d b
  counted : ∀ d ∈ ds, ∀ h n, ¬ Abandoned d b h n
  apart : ds.Pairwise Apart
  held : ∀ h, (b.owner h).isSome → ∃ d ∈ ds, d.held.handle = some h

namespace Accounts

variable {ds es : List Device} {d : Device} {b c : Bus}

theorem perm (ha : Accounts ds b) (hp : ds.Perm es) : Accounts es b where
  sparing := ha.sparing
  allocated := ha.allocated
  owned d hd := ha.owned d (hp.mem_iff.2 hd)
  counted d hd := ha.counted d (hp.mem_iff.2 hd)
  apart := (hp.pairwise_iff Apart.symm).1 ha.apart
  held h hh := by
    obtain ⟨d, hd, heq⟩ := ha.held h hh
    exact ⟨d, hp.mem_iff.1 hd, heq⟩

/-- A bus with the same owners will do, if releases and closes work on it. -/
theorem onto (ha : Accounts ds b) (hs : SameOwners b c) (hc : Sparing c) : Accounts ds c where
  sparing := hc
  allocated := allocated_of_same hs ha.allocated
  owned d hd := by
    obtain ⟨hclosed, hdepth, hopened⟩ := ha.owned d hd
    exact ⟨hclosed, hdepth, fun h hh => hs.owner h ▸ hopened h hh⟩
  counted d hd h n hx :=
    ha.counted d hd h n ⟨hx.handle, (holds_congr (hs.owner h)).1 hx.holds, hx.forgotten⟩
  apart := ha.apart
  held h hh := ha.held h (hs.owner h ▸ hh)

/-- A device that holds nothing can join. -/
theorem add (ha : Accounts ds b) (hd : d.held = .empty) : Accounts (d :: ds) b := by
  have hnone : d.held.handle = none := by rw [hd]; rfl
  have hclaimed : d.held.claimed = ∅ := by rw [hd]; rfl
  refine ⟨ha.sparing, ha.allocated, fun e he => ?_, fun e he h n hx => ?_, ?_, fun h hh => ?_⟩
  · rcases List.mem_cons.1 he with rfl | he
    · refine ⟨fun _ => hclaimed, fun n level hl => ?_, fun h hh => ?_⟩
      · rw [hclaimed] at hl
        cases hl
      · cases hnone.symm.trans hh
    · exact ha.owned e he
  · rcases List.mem_cons.1 he with rfl | he
    · cases hnone.symm.trans hx.handle
    · exact ha.counted e he h n hx
  · refine List.pairwise_cons.2 ⟨fun e _ h hh => ?_, ha.apart⟩
    cases hnone.symm.trans hh
  · obtain ⟨e, he, heq⟩ := ha.held h hh
    exact ⟨e, List.mem_cons_of_mem d he, heq⟩

/-- A device without a handle can leave. -/
theorem remove (ha : Accounts (d :: ds) b) (hd : d.held.handle = none) : Accounts ds b := by
  refine ⟨ha.sparing, ha.allocated, fun e he => ha.owned e (List.mem_cons_of_mem d he),
    fun e he => ha.counted e (List.mem_cons_of_mem d he), (List.pairwise_cons.1 ha.apart).2,
    fun h hh => ?_⟩
  obtain ⟨e, he, heq⟩ := ha.held h hh
  rcases List.mem_cons.1 he with rfl | he
  · cases hd.symm.trans heq
  · exact ⟨e, he, heq⟩

/-- Only what a device holds matters, and which one it is. -/
theorem replace {e : Device} (ha : Accounts (d :: ds) b) (hid : e.id = d.id)
    (hheld : e.held = d.held) : Accounts (e :: ds) b := by
  obtain ⟨hd, hrest⟩ := List.pairwise_cons.1 ha.apart
  refine ⟨ha.sparing, ha.allocated, fun k hk => ?_, fun k hk h n hx => ?_,
    List.pairwise_cons.2 ⟨fun k hk h hh => hd k hk h (hheld ▸ hh), hrest⟩, fun h hh => ?_⟩
  · rcases List.mem_cons.1 hk with rfl | hk
    · obtain ⟨hclosed, hdepth, hopened⟩ := ha.owned d List.mem_cons_self
      constructor
      · rwa [hheld]
      · rwa [hheld]
      · rwa [hheld, hid]
    · exact ha.owned k (List.mem_cons_of_mem d hk)
  · rcases List.mem_cons.1 hk with rfl | hk
    · exact ha.counted d List.mem_cons_self h n ⟨hheld ▸ hx.handle, hx.holds, hheld ▸ hx.forgotten⟩
    · exact ha.counted k (List.mem_cons_of_mem d hk) h n hx
  · obtain ⟨k, hk, heq⟩ := ha.held h hh
    rcases List.mem_cons.1 hk with rfl | hk
    · exact ⟨e, List.mem_cons_self, hheld ▸ heq⟩
    · exact ⟨k, List.mem_cons_of_mem e hk, heq⟩

/-- Whatever one of the devices does, and however it fails, the accounts are kept. -/
theorem use (ha : Accounts (d :: ds) b) (u : Use) :
    let e := after u.perform (⟨d, b⟩ : Attachment Bus)
    Accounts (e.device :: ds) e.bus := by
  intro e
  have hd : Owned d b := ha.owned d List.mem_cons_self
  obtain ⟨hapart, hrest⟩ := List.pairwise_cons.1 ha.apart
  obtain ⟨hall, hown, hframe⟩ := custody_use u ⟨d, b⟩ ha.allocated hd
  obtain ⟨hfailures, hsettled⟩ := settles_use u ⟨d, b⟩
  change Allocated e.bus at hall
  change Owned e.device e.bus at hown
  change Frame d b e.device e.bus at hframe
  change e.bus.failures = b.failures at hfailures
  have hlt : ∀ k ∈ ds, ∀ h, k.held.handle = some h → h.number < b.nextHandle := fun k hk h hh =>
    lt_of_owned ha.allocated (ha.owned k (List.mem_cons_of_mem d hk)) hh
  have hothers : ∀ k ∈ ds, ∀ h, k.held.handle = some h → e.bus.owner h = b.owner h :=
    fun k hk h hh => hframe.others h (hlt k hk h hh) fun hd => hapart k hk h hd hh
  refine ⟨ha.sparing.of_failures hfailures, hall, fun k hk => ?_, fun k hk h n hx => ?_, ?_,
    fun h hh => ?_⟩
  · rcases List.mem_cons.1 hk with rfl | hk
    · exact hown
    · exact State.owned_of_frame hframe ha.allocated (ha.owned k (List.mem_cons_of_mem d hk))
        fun h hh hd => hapart k hk h hd hh
  · rcases List.mem_cons.1 hk with rfl | hk
    · -- Nothing was lost before, and no reset can lose anything while releases work.
      obtain ⟨hlost | ⟨-, hlost⟩, -⟩ := (abandoned_use ha.allocated hd u h n).1 hx
      · exact ha.counted d List.mem_cons_self h n hlost
      · exact ha.sparing.release hlost.failing
    · refine ha.counted k (List.mem_cons_of_mem d hk) h n ⟨hx.handle, ?_, hx.forgotten⟩
      exact (holds_congr (hothers k hk h hx.handle)).1 hx.holds
  · refine List.pairwise_cons.2 ⟨fun k hk h he hh => ?_, hrest⟩
    exact hapart k hk h (hframe.stays (hlt k hk h hh) he) hh
  · rcases hsettled ha.sparing h hh with hmine | ⟨hopen, hnot⟩
    · exact ⟨e.device, List.mem_cons_self, hmine⟩
    · obtain ⟨k, hk, heq⟩ := ha.held h hopen
      rcases List.mem_cons.1 hk with rfl | hk
      · exact absurd heq hnot
      · exact ⟨k, List.mem_cons_of_mem _ hk, heq⟩

theorem drop (ha : Accounts (d :: ds) b) : Accounts ds (d.drop b) := by
  have hstate : after (Use.call .dispose).perform (⟨d, b⟩ : Attachment Bus) =
      after (dispose true) ⟨d, b⟩ := Use.after_unitReply rfl _
  have hused := ha.use (.call .dispose)
  simp only [hstate] at hused
  rw [Device.drop_eq]
  exact hused.remove (handle_after_dispose _)

/-! What the accounts come to. -/

theorem handles_perm (ha : Accounts ds b) :
    b.handles.keys.Perm (ds.filterMap fun d => d.held.handle) := by
  have hnodup : (ds.filterMap fun d => d.held.handle).Nodup := by
    rw [List.Nodup, List.pairwise_filterMap]
    refine ha.apart.imp fun hde h hd i he heq => ?_
    exact hde h hd (heq ▸ he)
  rw [List.perm_ext_iff_of_nodup (Table.nodup_keys _) hnodup]
  intro h
  have hopen : h ∈ b.handles.keys ↔ (b.owner h).isSome := by
    rw [Table.mem_keys, Table.contains_eq_isSome, Loopback.Bus.owner, Option.isSome_map]
  rw [hopen, List.mem_filterMap]
  constructor
  · exact ha.held h
  · rintro ⟨d, hd, hh⟩
    obtain ⟨claimed, hown, -⟩ := (ha.owned d hd).opened h hh
    rw [hown]
    rfl

/-- As many handles are open as devices hold one. -/
theorem openHandles (ha : Accounts ds b) :
    b.openHandles = (ds.filter fun d => d.held.handle.isSome).length := by
  calc b.openHandles = b.handles.keys.length := (List.length_map _).symm
    _ = (ds.filterMap fun d => d.held.handle).length := ha.handles_perm.length_eq
    _ = (ds.filter fun d => d.held.handle.isSome).length := by
      rw [List.length_filterMap_eq_countP, List.countP_eq_length_filter]

/-- What is claimed on the handle of a device is what the device has claimed. -/
theorem keys_claimed (ha : Accounts ds b) (hd : d ∈ ds) {h : HandleId}
    (hh : d.held.handle = some h) :
    ∃ held, b.handles.get? h = some held ∧ held.device = d.id ∧
      held.claimed.keys = d.held.claimed.keys := by
  obtain ⟨claimed, hown, hsub⟩ := (ha.owned d hd).opened h hh
  obtain ⟨held, hget, hid, rfl⟩ := Loopback.Bus.owner_eq_some.1 hown
  refine ⟨held, hget, hid, Table.keys_eq fun n => ?_⟩
  constructor
  · intro hn
    cases hc : d.held.claimed.contains n with
    | true => rfl
    | false => exact absurd ⟨hh, ⟨held, hget, hn⟩, hc⟩ (ha.counted d hd h n)
  · exact hsub n

/-- The interfaces claimed on a handle, if it is open for the device. -/
def claimsOn (b : Bus) (id : DeviceId) (h : HandleId) : List UInt8 :=
  match b.handles.get? h with
  | some held => if held.device == id then held.claimed.keys else []
  | none => []

private theorem flatMap_filter {α β : Type} (p : α → Bool) (f : α → List β) (l : List α) :
    (l.filter p).flatMap f = l.flatMap fun a => if p a then f a else [] := by
  induction l with
  | nil => rfl
  | cons a rest ih =>
    by_cases hp : p a
    · simp [hp, ih]
    · simp [hp, ih]

private theorem flatMap_filterMap {α β γ : Type} (k : α → Option β) (f : β → List γ) (l : List α) :
    (l.filterMap k).flatMap f = l.flatMap fun a => ((k a).map f).getD [] := by
  induction l with
  | nil => rfl
  | cons a rest ih =>
    cases hk : k a with
    | none => simp [hk, ih]
    | some b => simp [hk, ih]

private theorem flatMap_congr {α β : Type} {f g : α → List β} {l : List α}
    (h : ∀ a ∈ l, f a = g a) : l.flatMap f = l.flatMap g := by
  rw [List.flatMap_def, List.flatMap_def, List.map_congr_left h]

/-- What is claimed for a device on the bus, handle after handle. -/
theorem flatMap_claimsOn (b : Bus) (id : DeviceId) :
    ((b.handles.entries.filter fun e => e.2.device == id).flatMap fun e => e.2.claimed.keys) =
      b.handles.keys.flatMap (claimsOn b id) := by
  rw [flatMap_filter, Table.keys, List.flatMap_map]
  refine flatMap_congr fun e he => ?_
  rw [claimsOn, Table.get?_of_mem b.handles he]

/-- What the devices have claimed is what is claimed on their handles. -/
theorem flatMap_claimed (ha : Accounts ds b) (id : DeviceId) :
    (ds.filterMap fun d => d.held.handle).flatMap (claimsOn b id) =
      (ds.filter fun d => d.id == id).flatMap fun d => d.held.claimed.keys := by
  rw [flatMap_filterMap, flatMap_filter]
  refine flatMap_congr fun d hd => ?_
  cases hh : d.held.handle with
  | none =>
    have hclaimed : d.held.claimed.keys = [] := by
      rw [(ha.owned d hd).closed hh]
      rfl
    simp [hclaimed]
  | some h =>
    obtain ⟨held, hget, hid, hkeys⟩ := ha.keys_claimed hd hh
    simp [claimsOn, hget, hid, hkeys]

theorem mergeSort_congr {l m : List UInt8} (h : l.Perm m) : l.mergeSort = m.mergeSort := by
  have htrans : ∀ a b c : UInt8, decide (a ≤ b) = true → decide (b ≤ c) = true →
      decide (a ≤ c) = true := by
    intro a b c hab hbc
    rw [decide_eq_true_iff] at hab hbc ⊢
    exact UInt8.le_trans hab hbc
  have htotal : ∀ a b : UInt8, (decide (a ≤ b) || decide (b ≤ a)) = true := by
    intro a b
    simpa using UInt8.le_total a b
  refine List.Perm.eq_of_pairwise (fun a b _ _ hab hba => ?_) (List.pairwise_mergeSort htrans htotal l)
    (List.pairwise_mergeSort htrans htotal m) ?_
  · exact UInt8.le_antisymm (of_decide_eq_true hab) (of_decide_eq_true hba)
  · exact ((List.mergeSort_perm l _).trans h).trans (List.mergeSort_perm m _).symm

/-- The interfaces claimed for a device number are those of all devices that wrap it. -/
theorem claimedInterfaces (ha : Accounts ds b) (id : DeviceId) :
    b.claimedInterfaces id =
      ((ds.filter fun d => d.id == id).flatMap fun d => d.held.claimed.keys).mergeSort := by
  unfold Loopback.Bus.claimedInterfaces
  apply mergeSort_congr
  rw [flatMap_claimsOn, ← ha.flatMap_claimed id]
  exact ha.handles_perm.flatMap_right _

end Accounts

end SerialBus.Custody
