import Mathlib.Data.List.Induction
import SerialBus.Proofs.Claims.Levels

/-! Claims that are counted, with transfers between them. After as many releases as claims the
interface is given back exactly if each transfer that claims it does so under a counted claim. -/
namespace SerialBus.Levels

open SerialBus.Action Device Session Custody Routing
open Loopback (Bus)

def claiming (n : UInt8) : Use := .call (.claim (some n))

def releasing (n : UInt8) : Use := .call (.release (some n))

def isClaiming (n : UInt8) : Use → Bool
  | .call (.claim (some m)) => m == n
  | _ => false

def isReleasing (n : UInt8) : Use → Bool
  | .call (.release (some m)) => m == n
  | _ => false

/-- How often the interface is claimed by its number. -/
def claims (n : UInt8) (uses : List Use) : Nat := uses.countP (isClaiming n)

def releases (n : UInt8) (uses : List Use) : Nat := uses.countP (isReleasing n)

/-- Claims and releases of one interface, each release after a claim of its own and the last one at
the end, with any transfers between them. -/
structure Balanced (n : UInt8) (uses : List Use) : Prop where
  turns : ∀ u ∈ uses, u = claiming n ∨ u = releasing n ∨ u.transfer?.isSome
  covered : ∀ before, before <+: uses → releases n before ≤ claims n before
  even : releases n uses = claims n uses
  last : uses.getLast? = some (releasing n)

/-- A device after it was used. -/
def made (a : Attachment Bus) (uses : List Use) : Attachment Bus := run a (uses.map .use)

/-- The use is a transfer that gets as far as claiming the interface. -/
def Reaches (n : UInt8) (a : Attachment Bus) (u : Use) : Prop := ∃ t r, u.transfer? = some t ∧
  outcome (route t.endpoint t.target) a = .ok r ∧ r.1.descriptor.interfaceNumber = n

/-- Each transfer that claims the interface comes where more claims than releases were made. -/
def Sheltered (n : UInt8) (a : Attachment Bus) (uses : List Use) : Prop :=
  ∀ before u, before ++ [u] <+: uses → Reaches n (made a before) u →
    releases n before < claims n before

/-- Nothing is made to fail, and what the device counts is what is claimed on the bus. -/
structure Sound (spec : Loopback.Device) (a : Attachment Bus) : Prop where
  failures : a.bus.failures = ∅
  accounts : Accounts [a.device] a.bus
  attached : Attached spec a

section

variable {spec : Loopback.Device} {a : Attachment Bus} {n : UInt8}

theorem Sound.owned (hs : Sound spec a) : Owned a.device a.bus :=
  hs.accounts.owned a.device List.mem_cons_self

theorem Sound.faithful (hs : Sound spec a) : Faithful a where
  failures := hs.failures
  present := by
    obtain ⟨d, hd, -⟩ := hs.attached.state
    rw [hd]
    rfl
  closed := hs.owned.closed
  opened h hh := by
    obtain ⟨claimed, hown, hsub⟩ := hs.owned.opened h hh
    refine ⟨claimed, hown, fun n => Bool.eq_iff_iff.2 ⟨fun hn => ?_, hsub n⟩⟩
    cases hc : a.device.held.claimed.contains n with
    | true => rfl
    | false =>
      have hlost : Abandoned a.device a.bus h n := ⟨hh, (holds_of_owner hown).2 hn, hc⟩
      exact absurd hlost (hs.accounts.counted a.device List.mem_cons_self h n)

theorem Sound.use (hs : Sound spec a) (u : Use) : Sound spec (after u.perform a) where
  failures := (settles_use u a).failures.trans hs.failures
  accounts := hs.accounts.use u
  attached := attached_use hs.attached u

theorem Sound.made (hs : Sound spec a) (uses : List Use) : Sound spec (made a uses) := by
  induction uses generalizing a with
  | nil => exact hs
  | cons u rest ih => exact ih (hs.use u)

theorem sound_atStart {specs : List Loopback.Device} {id : DeviceId}
    (hspec : specs[id.number]? = some spec) (descriptor : DeviceDescriptor) :
    Sound spec (atStart specs id descriptor) := by
  have hsparing : Sparing (atStart specs id descriptor).bus := ⟨nofun, rfl⟩
  have hnone : Accounts [] (atStart specs id descriptor).bus :=
    ⟨hsparing, allocated_atStart specs id descriptor, nofun, nofun, .nil, nofun⟩
  exact ⟨rfl, hnone.add rfl, attached_atStart hspec descriptor⟩

/-- What is counted is claimed in the books of the device, and on the bus. -/
theorem Sound.level_eq_zero_iff (hs : Sound spec a) :
    level a.device n = 0 ↔ a.device.held.claimed.contains n = false := by
  rw [Table.contains_eq_isSome, level]
  cases hget : a.device.held.claimed.get? n with
  | none => exact ⟨fun _ => rfl, fun _ => rfl⟩
  | some k =>
    have hpositive := hs.owned.depth n k hget
    constructor
    · intro hk
      rw [Option.getD_some] at hk
      omega
    · intro hnone
      cases hnone

theorem Sound.mem_claimedInterfaces (hs : Sound spec a) :
    n ∈ a.bus.claimedInterfaces a.device.id ↔ a.device.held.claimed.contains n = true := by
  rw [hs.accounts.claimedInterfaces, (List.mergeSort_perm _ _).mem_iff]
  simp [Table.mem_keys]

/-! One use. -/

theorem level_claiming (hs : Sound spec a) (n : UInt8) :
    level (after (claiming n).perform a).device n = level a.device n + 1 := by
  have hstate : after (claiming n).perform a = after (acquire n (· + 1)) a :=
    Use.after_unitReply rfl a
  rw [hstate, level_acquire hs.faithful, if_pos rfl]

theorem level_releasing (hs : Sound spec a) (hn : 1 ≤ level a.device n) :
    level (after (releasing n).perform a).device n = level a.device n - 1 := by
  have hstate : after (releasing n).perform a = after (release (.number n)) a :=
    Use.after_unitReply rfl a
  rw [hstate, level_release hs.faithful hn]

theorem level_transferring (hs : Sound spec a) {u : Use} (hu : u.transfer?.isSome) (n : UInt8) :
    (Reaches n a u → level (after u.perform a).device n = max (level a.device n) 1) ∧
      (¬ Reaches n a u → level (after u.perform a).device n = level a.device n) := by
  obtain ⟨t, ht⟩ := Option.isSome_iff_exists.1 hu
  have hlevel := level_transfer hs.faithful t.endpoint t.payload t.target t.timeout n
  rw [u.after_transfer ht a, hlevel]
  constructor
  · rintro ⟨t', r, ht', hr, hn⟩
    cases ht.symm.trans ht'
    rw [hr]
    exact if_pos hn
  · intro hnot
    cases hr : outcome (route t.endpoint t.target) a with
    | error e => rfl
    | ok r => exact if_neg fun hn => hnot ⟨t, r, ht, hr, hn⟩

/-! A whole run. -/

theorem made_concat (a : Attachment Bus) (uses : List Use) (u : Use) :
    made a (uses ++ [u]) = after u.perform (made a uses) := by
  rw [made, Custody.run, List.map_append, List.foldl_append]
  rfl

theorem sheltered_nil : Sheltered n a [] := by
  intro before u hu
  cases before <;> cases List.prefix_nil.1 hu

theorem sheltered_concat {uses : List Use} {u : Use} : Sheltered n a (uses ++ [u]) ↔
    Sheltered n a uses ∧ (Reaches n (made a uses) u → releases n uses < claims n uses) := by
  constructor
  · intro h
    refine ⟨fun before v hv => h before v (hv.trans (List.prefix_append _ _)), h uses u ?_⟩
    exact List.prefix_refl _
  · rintro ⟨hbefore, hlast⟩ before v hv
    rcases List.prefix_concat_iff.1 hv with heq | hv
    · obtain ⟨rfl, hsame⟩ := List.append_inj' heq rfl
      cases List.singleton_inj.1 hsame
      exact hlast
    · exact hbefore before v hv

theorem claims_concat (n : UInt8) (uses : List Use) (u : Use) :
    claims n (uses ++ [u]) = claims n uses + if isClaiming n u then 1 else 0 := by
  rw [claims, List.countP_append, List.countP_singleton]
  rfl

theorem releases_concat (n : UInt8) (uses : List Use) (u : Use) :
    releases n (uses ++ [u]) = releases n uses + if isReleasing n u then 1 else 0 := by
  rw [releases, List.countP_append, List.countP_singleton]
  rfl

theorem isClaiming_transfer {u : Use} (hu : u.transfer?.isSome) :
    isClaiming n u = false ∧ isReleasing n u = false := by
  cases u with
  | follow path => cases hu
  | onView c v => exact ⟨rfl, rfl⟩
  | call c => cases c <;> first | exact ⟨rfl, rfl⟩ | cases hu

theorem not_reaches_of_transfer? {u : Use} (hu : u.transfer? = none) : ¬ Reaches n a u := by
  rintro ⟨t, r, ht, -⟩
  cases hu.symm.trans ht

/-- A claim and a release change what is counted like what was claimed and not released. -/
theorem level_counted (hs : Sound spec a) {u : Use} (hu : u = claiming n ∨ u = releasing n)
    {claimed released extra : Nat} (hcounted : level a.device n + released = claimed + extra)
    (hcover : released + (if isReleasing n u then 1 else 0) ≤
      claimed + if isClaiming n u then 1 else 0) :
    level (after u.perform a).device n + (released + if isReleasing n u then 1 else 0) =
      claimed + (if isClaiming n u then 1 else 0) + extra := by
  rcases hu with rfl | rfl
  · have hclaim : isClaiming n (claiming n) = true := beq_self_eq_true n
    have hrelease : isReleasing n (claiming n) = false := rfl
    have hlevel := level_claiming hs n
    rw [hclaim, hrelease, hlevel]
    simp only [if_true, Bool.false_eq_true, if_false]
    omega
  · have hclaim : isClaiming n (releasing n) = false := rfl
    have hrelease : isReleasing n (releasing n) = true := beq_self_eq_true n
    rw [hclaim, hrelease] at hcover ⊢
    simp only [if_true, Bool.false_eq_true, if_false] at hcover ⊢
    have hlevel := level_releasing hs (n := n) (by omega)
    omega

/-- What is counted after a run is what was claimed and not released, and one more if a transfer
had to claim the interface on its own. -/
theorem level_made (hs : Sound spec a) (hn : level a.device n = 0) (uses : List Use)
    (hturns : ∀ u ∈ uses, u = claiming n ∨ u = releasing n ∨ u.transfer?.isSome)
    (hcovered : ∀ before, before <+: uses → releases n before ≤ claims n before) :
    (Sheltered n a uses → level (made a uses).device n + releases n uses = claims n uses) ∧
      (¬ Sheltered n a uses →
        level (made a uses).device n + releases n uses = claims n uses + 1) := by
  induction uses using List.reverseRecOn with
  | nil =>
    exact ⟨fun _ => hn, fun hnot => absurd sheltered_nil hnot⟩
  | append_singleton uses u ih =>
    obtain ⟨hyes, hno⟩ := ih (fun v hv => hturns v (List.mem_append_left _ hv)) fun before hb =>
      hcovered before (hb.trans (List.prefix_append _ _))
    have hsound : Sound spec (made a uses) := hs.made uses
    have hbefore := hcovered uses (List.prefix_append _ _)
    have hcover := hcovered (uses ++ [u]) (List.prefix_refl _)
    rw [claims_concat, releases_concat] at hcover ⊢
    rw [made_concat, sheltered_concat]
    cases hu : u.transfer? with
    | none =>
      have hturn : u = claiming n ∨ u = releasing n := by
        rcases hturns u (List.mem_append_right _ (List.mem_singleton_self u)) with h | h | h
        · exact .inl h
        · exact .inr h
        · rw [hu] at h
          cases h
      have hsame : (Reaches n (made a uses) u → releases n uses < claims n uses) ↔ True :=
        iff_true_intro fun h => absurd h (not_reaches_of_transfer? hu)
      rw [hsame, and_true]
      constructor
      · intro h
        have hcounted : level (made a uses).device n + releases n uses = claims n uses + 0 := hyes h
        exact level_counted hsound hturn hcounted hcover
      · exact fun h => level_counted hsound hturn (hno h) hcover
    | some t =>
      have hsome : u.transfer?.isSome := by
        rw [hu]
        rfl
      obtain ⟨hclaim, hrelease⟩ := isClaiming_transfer (n := n) hsome
      obtain ⟨hreaches, hmisses⟩ := level_transferring hsound hsome n
      simp only [hclaim, hrelease, Bool.false_eq_true, if_false, Nat.add_zero]
      by_cases hr : Reaches n (made a uses) u
      · rw [hreaches hr]
        -- Under a counted claim there is a level already, and otherwise one is added to none.
        constructor
        · rintro ⟨h, hlt⟩
          have := hyes h
          have := hlt hr
          omega
        · intro hnot
          by_cases h : Sheltered n a uses
          · have := hyes h
            have : ¬ releases n uses < claims n uses := fun hlt => hnot ⟨h, fun _ => hlt⟩
            omega
          · have := hno h
            omega
      · rw [hmisses hr]
        exact ⟨fun h => hyes h.1, fun hnot => hno fun h => hnot ⟨h, fun hx => absurd hx hr⟩⟩

end

/-- Wherever a run in which nothing is made to fail has left an interface unclaimed, and whatever is
then transferred between its claims and releases, the last of these gives it back, to the device and
on the bus, exactly if each transfer that claimed it did so under a counted claim. -/
theorem given_back_iff_sheltered {specs : List Loopback.Device} {id : DeviceId}
    {spec : Loopback.Device} (hspec : specs[id.number]? = some spec) (descriptor : DeviceDescriptor)
    (n : UInt8) (earlier uses : List Use)
    (hfree : (made (atStart specs id descriptor) earlier).device.held.claimed.contains n = false)
    (hbalanced : Balanced n uses) :
    let a := made (atStart specs id descriptor) earlier
    let e := made a uses
    (e.device.held.claimed.contains n = false ∧ n ∉ e.bus.claimedInterfaces id) ↔
      Sheltered n a uses := by
  intro a e
  have hs : Sound spec a := (sound_atStart hspec descriptor).made earlier
  have he : Sound spec e := hs.made uses
  have hid : e.device.id = id := by
    have hrun := custody_run ((earlier ++ uses).map .use) _ (allocated_atStart specs id descriptor)
      (owned_atStart specs id descriptor)
    rw [List.map_append, Custody.run, List.foldl_append] at hrun
    exact hrun.2.2.id
  have hmem := he.mem_claimedInterfaces (n := n)
  rw [hid] at hmem
  obtain ⟨hyes, hno⟩ := level_made hs (hs.level_eq_zero_iff.2 hfree) uses hbalanced.turns
    hbalanced.covered
  have heven := hbalanced.even
  rw [hmem, Bool.not_eq_true, and_self, ← he.level_eq_zero_iff]
  constructor
  · intro hzero
    by_contra hnot
    have hlevel : level e.device n + releases n uses = claims n uses + 1 := hno hnot
    omega
  · intro hsheltered
    have hlevel : level e.device n + releases n uses = claims n uses := hyes hsheltered
    omega

/-- A byte for the endpoint 0x01 of the first interface. -/
def writing : Use := .call (.write 0x01 [0] (some 0) none)

theorem balanced_of_take {n : UInt8} {uses : List Use}
    (hturns : ∀ u ∈ uses, u = claiming n ∨ u = releasing n ∨ u.transfer?.isSome)
    (hcovered : ∀ k ≤ uses.length, releases n (uses.take k) ≤ claims n (uses.take k))
    (heven : releases n uses = claims n uses) (hlast : uses.getLast? = some (releasing n)) :
    Balanced n uses := by
  refine ⟨hturns, fun before hb => ?_, heven, hlast⟩
  have hle := hcovered before.length hb.length_le
  rwa [← List.prefix_iff_eq_take.1 hb] at hle

theorem balanced_inside : Balanced 0 [claiming 0, writing, releasing 0] :=
  balanced_of_take (by simp [writing, Use.transfer?]) (by decide) rfl rfl

theorem balanced_outside : Balanced 0 [writing, claiming 0, releasing 0] :=
  balanced_of_take (by simp [writing, Use.transfer?]) (by decide) rfl rfl

/-- The transfer stands between the claim and the release, or before both. -/
theorem given_back_iff_sheltered_writing :
    let spec := Loopback.Device.bulkLoopback 1 2
    let start := atStart [spec] ⟨0⟩ spec.descriptor
    let inside := made start [claiming 0, writing, releasing 0]
    let outside := made start [writing, claiming 0, releasing 0]
    (inside.device.held.claimed.contains 0 = false ∧ 0 ∉ inside.bus.claimedInterfaces ⟨0⟩) ∧
      ¬ (outside.device.held.claimed.contains 0 = false ∧
        0 ∉ outside.bus.claimedInterfaces ⟨0⟩) := by
  intro spec start inside outside
  have hspec : [spec][(⟨0⟩ : DeviceId).number]? = some spec := rfl
  constructor
  · have hclaimed : Sheltered 0 start [claiming 0] :=
      sheltered_concat.2 ⟨sheltered_nil, fun h => absurd h (not_reaches_of_transfer? rfl)⟩
    have hwritten : Sheltered 0 start [claiming 0, writing] :=
      sheltered_concat.2 ⟨hclaimed, fun _ => by decide⟩
    have hsheltered : Sheltered 0 start [claiming 0, writing, releasing 0] :=
      sheltered_concat.2 ⟨hwritten, fun h => absurd h (not_reaches_of_transfer? rfl)⟩
    exact (given_back_iff_sheltered hspec spec.descriptor 0 [] _ rfl balanced_inside).2 hsheltered
  · intro hback
    have hsheltered :=
      (given_back_iff_sheltered hspec spec.descriptor 0 [] _ rfl balanced_outside).1 hback
    have hroute : (outcome (route 0x01 (.number 0)) start).map
        (fun r => r.1.descriptor.interfaceNumber) = .ok 0 := by decide +kernel
    obtain ⟨r, hr, hn⟩ := Bus.map_eq_ok.1 hroute
    have hlt := hsheltered [] writing (List.prefix_append [writing] _) ⟨_, r, rfl, hr, hn⟩
    exact absurd hlt (by decide)

/-- Nothing is made to fail, and claim and release both succeed. -/
theorem still_claimed_after_last_release :
    let spec := Loopback.Device.bulkLoopback 1 2
    let start := atStart [spec] ⟨0⟩ spec.descriptor
    let a := made start [writing, claiming 0, releasing 0]
    Balanced 0 [writing, claiming 0, releasing 0] ∧ a.bus.failures = ∅ ∧
      outcome (claiming 0).perform (made start [writing]) = .ok () ∧
      outcome (releasing 0).perform (made start [writing, claiming 0]) = .ok () ∧
      a.device.held.claimed.get? 0 = some 1 ∧ 0 ∈ a.bus.claimedInterfaces ⟨0⟩ := by
  intro spec start a
  exact ⟨balanced_outside, by decide +kernel, by decide +kernel, by decide +kernel,
    by decide +kernel, by decide +kernel⟩

end SerialBus.Levels
