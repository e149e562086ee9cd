import SerialBus.Proofs.Session.Accounts

/-! Searches and the accounts of a bus: the devices that are found join them, and those that are
turned down or given up leave nothing behind. -/
namespace SerialBus.Custody

open SerialBus.Action Device Session
open Loopback (Bus)
open Loopback.Bus (SameOwners)

/-- A test that uses nothing but the device that it is asked about. -/
def Fair (test : StateM (Attachment Bus) Bool) : Prop :=
  ∀ d b ds, Accounts (d :: ds) b →
    Accounts ((test ⟨d, b⟩).2.device :: ds) (test ⟨d, b⟩).2.bus

def FairSearch (s : Search Bus) : Prop := ∀ test, s.predicate = some test → Fair test

/-- The custom tests of a session read the product string at most. -/
theorem state_predicate (t : CustomTest) (a : Attachment Bus) :
    (t.predicate a).2 = a ∨ (t.predicate a).2 = after product a := by
  unfold CustomTest.predicate after
  dsimp only
  split
  · cases t.product with
    | none => exact .inl rfl
    | some text =>
      right
      cases product a <;> rfl
  · exact .inl rfl

theorem fair_predicate (t : CustomTest) : Fair t.predicate := by
  intro d b ds ha
  have hstate : after (Use.call .product).perform (⟨d, b⟩ : Attachment Bus) =
      after product ⟨d, b⟩ := by
    rw [Use.after_call, DeviceCall.perform, after_bind_pure]
  rcases state_predicate t ⟨d, b⟩ with h | h
  · rw [h]
    exact ha
  · rw [h, ← hstate]
    exact ha.use (.call .product)

theorem fairSearch_toSearch (r : SearchRequest) : FairSearch r.toSearch := by
  intro test ht
  obtain ⟨t, -, rfl⟩ := Option.map_eq_some_iff.1 ht
  exact fair_predicate t

/-- The devices in an item of a search. -/
def found : Option (Except UsbError Device) → List Device
  | some (.ok d) => [d]
  | _ => []

variable {s : Search Bus} {ds : List Device} {b : Bus}

/-- A device that was read holds nothing. -/
theorem held_of_read {id : DeviceId} {d : Device} (h : outcome (Device.read id) b = .ok d) :
    d.held = .empty := by
  rw [Device.read, outcome_bind_pure] at h
  obtain ⟨descriptor, -, rfl⟩ := Loopback.Bus.map_eq_ok.1 h
  rfl

/-- Reading a descriptor concerns no owners. -/
theorem accounts_read (ha : Accounts ds b) (id : DeviceId) :
    Accounts ds (after (Device.read id) b) := by
  rw [Device.read, after_bind_pure]
  exact ha.onto (Loopback.Bus.sameOwners_act (.deviceDescriptor id) rfl b)
    (ha.sparing.of_failures (Loopback.Bus.failures_act (.deviceDescriptor id) b))

/-- What is found joins the accounts, and what is turned down is put away. -/
theorem accounts_judge (hs : FairSearch s) {d : Device} (hd : d.held = .empty)
    (ha : Accounts ds b) :
    ∃ r, outcome (s.judge d) b = .ok r ∧ Accounts (r.toList ++ ds) (after (s.judge d) b) := by
  have hadd : Accounts (d :: ds) b := ha.add hd
  have hend : ∀ {r c}, s.judge d b = .ok r c → Accounts (r.toList ++ ds) c →
      ∃ r, outcome (s.judge d) b = .ok r ∧ Accounts (r.toList ++ ds) (after (s.judge d) b) := by
    intro r c hj hc
    obtain ⟨ho, hstate⟩ := eq_ok_iff.1 hj
    exact ⟨r, ho, hstate ▸ hc⟩
  by_cases hadmits : s.admits d.descriptor = true
  · cases hp : s.predicate with
    | none =>
      apply hend (r := some d) (c := b)
      · simp only [Search.judge, hadmits, hp, if_true]
      · exact hadd
    | some test =>
      have htest := hs test hp d b ds hadd
      cases hw : test ⟨d, b⟩ with
      | mk wanted a =>
        rw [hw] at htest
        cases wanted with
        | true =>
          apply hend (r := some a.device) (c := a.bus)
          · simp only [Search.judge, hadmits, hp, hw, if_true]
          · exact htest
        | false =>
          apply hend (r := none) (c := a.device.drop a.bus)
          · simp only [Search.judge, hadmits, hp, hw, if_true, Bool.false_eq_true, if_false]
          · exact htest.drop
  · apply hend (r := none) (c := b)
    · simp only [Search.judge, hadmits, Bool.false_eq_true, if_false]
    · exact ha

theorem accounts_item (hs : FairSearch s) (id : DeviceId) (ha : Accounts ds b) :
    ∃ r, outcome (s.item id) b = .ok r ∧ Accounts (found r ++ ds) (after (s.item id) b) := by
  have hread := accounts_read ha id
  unfold Search.item
  rw [outcome_bind_ok _ (outcome_attempt _ _), after_bind_ok _ (outcome_attempt _ _), after_attempt]
  cases hr : outcome (Device.read id) b with
  | error e => exact ⟨some (.error e), rfl, hread⟩
  | ok d =>
    obtain ⟨r, ho, hjudge⟩ := accounts_judge hs (held_of_read hr) hread
    refine ⟨r.map fun d => .ok (s.prepare d), ?_, ?_⟩
    · exact outcome_bind_ok _ ho
    · rw [after_bind_ok _ ho, after_pure]
      cases r with
      | none => exact hjudge
      | some e =>
        -- The timeout of the search changes nothing about what the device holds.
        apply hjudge.replace
        · unfold Search.prepare
          split <;> rfl
        · unfold Search.prepare
          split <;> rfl

theorem accounts_next (hs : FairSearch s) (ids : List DeviceId) (ha : Accounts ds b) :
    ∃ r, outcome (s.next ids) b = .ok r ∧ Accounts (found r.1 ++ ds) (after (s.next ids) b) := by
  induction ids generalizing b with
  | nil => exact ⟨(none, []), rfl, ha⟩
  | cons id rest ih =>
    obtain ⟨r, ho, hitem⟩ := accounts_item hs id ha
    unfold Search.next
    rw [outcome_bind_ok _ ho, after_bind_ok _ ho]
    cases r with
    | none => exact ih hitem
    | some item => exact ⟨(some item, rest), rfl, hitem⟩

/-- How an operation ends that takes devices up, or fails and takes up none. -/
def TakesUp {α : Type} (made : α → List Device) (ds : List Device) :
    Except UsbError α → Bus → Prop
  | .ok r, b => Accounts (made r ++ ds) b
  | .error _, b => Accounts ds b

theorem accounts_devices (ha : Accounts ds b) :
    Accounts ds (after (Backend.devices : Action Bus (List DeviceId)) b) :=
  ha.onto (Loopback.Bus.sameOwners_act .devices rfl b)
    (ha.sparing.of_failures (Loopback.Bus.failures_act .devices b))

theorem accounts_first (hs : FairSearch s) (ha : Accounts ds b) :
    TakesUp Option.toList ds (outcome s.first b) (after s.first b) := by
  have hids := accounts_devices ha
  unfold Search.first
  rw [outcome_bind, after_bind]
  cases outcome (Backend.devices : Action Bus (List DeviceId)) b with
  | error e => exact hids
  | ok ids =>
    obtain ⟨⟨item, rest⟩, ho, hnext⟩ := accounts_next hs ids hids
    dsimp only
    rw [outcome_bind_ok _ ho, after_bind_ok _ ho]
    match item with
    | none => exact hnext
    | some (.ok d) => exact hnext
    | some (.error e) => exact hnext

theorem accounts_dropEach (given : List Device) (ha : Accounts (given ++ ds) b) :
    Accounts ds (given.foldl (fun bus d => d.drop bus) b) := by
  induction given generalizing b with
  | nil => exact ha
  | cons d rest ih => exact ih ha.drop

theorem accounts_collect (hs : FairSearch s) (given : List Device) (ids : List DeviceId)
    (ha : Accounts (given ++ ds) b) :
    TakesUp (fun l => l) ds (outcome (s.collect given ids) b) (after (s.collect given ids) b) := by
  induction ids generalizing given b with
  | nil => exact ha
  | cons id rest ih =>
    obtain ⟨r, ho, hitem⟩ := accounts_item hs id ha
    unfold Search.collect
    rw [outcome_bind_ok _ ho, after_bind_ok _ ho]
    match r with
    | none => exact ih given hitem
    | some (.ok d) =>
      have hmiddle : (given ++ d :: ds).Perm (d :: (given ++ ds)) := List.perm_middle
      refine ih (given ++ [d]) (hitem.perm ?_)
      rw [List.append_assoc]
      exact hmiddle.symm
    | some (.error e) => exact accounts_dropEach given hitem

theorem accounts_all (hs : FairSearch s) (ha : Accounts ds b) :
    TakesUp (fun l => l) ds (outcome s.all b) (after s.all b) := by
  have hids := accounts_devices ha
  unfold Search.all
  rw [outcome_bind, after_bind]
  cases outcome (Backend.devices : Action Bus (List DeviceId)) b with
  | error e => exact hids
  | ok ids => exact accounts_collect hs [] ids hids

end SerialBus.Custody
