import SerialBus.Proofs.Session.Searches

/-! Sessions in which all devices together hold exactly what is open and claimed on their bus, so
that nothing is left of it when all of them are put away. -/
namespace SerialBus.Session

open SerialBus.Action Custody
open Loopback (Bus)

/-- Steps that use the bus through devices and searches only, and let releases and closes work. -/
def Step.isAccounted : Step → Bool
  | .hook (.failOn method _) => method ≠ .releaseInterface && method ≠ .closeDevice
  | .backend _ => false
  | _ => true

/-- The slot whose device the step disposes of or drops. -/
def Step.putsAway? : Step → Option Nat
  | .drop n => some n
  | .device n .dispose => some n
  | _ => none

namespace State

/-- The devices that have not been dropped. -/
def devices (s : State Bus Bus) : List Device := s.slots.filterMap fun slot => slot.map (·.device)

/-- The accounts are balanced, and those who search are fair. -/
structure Balanced (s : State Bus Bus) : Prop where
  accounts : Accounts s.devices s.bed
  searches : ∀ p ∈ s.searches, FairSearch p.search

theorem slots_split {s : State Bus Bus} {n : Nat} {slot : Slot} (hn : s.slot? n = some slot) :
    ∃ before after, s.slots = before ++ some slot :: after ∧ before.length = n := by
  have hget : s.slots[n]? = some (some slot) := by
    cases h : s.slots[n]? with
    | none => simp [slot?, h] at hn
    | some o =>
      rw [slot?, h] at hn
      exact congrArg some hn
  obtain ⟨hlt, heq⟩ := List.getElem?_eq_some_iff.1 hget
  refine ⟨s.slots.take n, s.slots.drop (n + 1), ?_, List.length_take_of_le (Nat.le_of_lt hlt)⟩
  rw [← heq, ← List.drop_eq_getElem_cons hlt, List.take_append_drop]

/-- The devices but for the one in a slot, which any other or none can take the place of. -/
theorem devices_set {s : State Bus Bus} {n : Nat} {slot : Slot} (hn : s.slot? n = some slot) :
    ∃ rest, s.devices.Perm (slot.device :: rest) ∧ ∀ (b : Bus) (o : Option Slot),
      ({ s with bed := b, slots := s.slots.set n o } : State Bus Bus).devices.Perm
        ((o.map (·.device)).toList ++ rest) := by
  obtain ⟨before, after, hslots, rfl⟩ := slots_split hn
  let name : Option Slot → Option Device := fun slot => slot.map (·.device)
  refine ⟨before.filterMap name ++ after.filterMap name, ?_, fun b o => ?_⟩
  · unfold devices
    rw [hslots, List.filterMap_append, List.filterMap_cons]
    exact List.perm_middle
  · unfold devices
    dsimp only
    rw [hslots, List.set_append_right _ _ (Nat.le_refl _), Nat.sub_self, List.set_cons_zero,
      List.filterMap_append, List.filterMap_cons]
    cases o with
    | none => exact .refl _
    | some slot => exact List.perm_middle

variable {s : State Bus Bus}

/-- What one device does is covered by its own change and that of the bus. -/
theorem Balanced.set (hs : s.Balanced) {n : Nat} {slot : Slot} (hn : s.slot? n = some slot)
    {b : Bus} {o : Option Slot}
    (hstep : ∀ rest, Accounts (slot.device :: rest) s.bed →
      Accounts ((o.map (·.device)).toList ++ rest) b) :
    ({ s with bed := b, slots := s.slots.set n o } : State Bus Bus).Balanced := by
  obtain ⟨rest, hbefore, hafter⟩ := devices_set hn
  refine ⟨?_, hs.searches⟩
  exact (hstep rest (hs.accounts.perm hbefore)).perm (hafter b o).symm

theorem Balanced.onSlot {α : Type} (hs : s.Balanced) {n : Nat} {slot : Slot}
    (hn : s.slot? n = some slot) {act : DeviceAction Bus α} (u : Use)
    (hu : ∀ a, after u.perform a = after act a) : (after (State.onSlot n slot act) s).Balanced := by
  rw [after_onSlot]
  refine hs.set hn fun rest ha => ?_
  have hused := ha.use u
  rw [hu] at hused
  exact hused

theorem Balanced.views (hs : s.Balanced) (views : List (Nat × View)) :
    ({ s with views } : State Bus Bus).Balanced := ⟨hs.accounts, hs.searches⟩

theorem Balanced.bed (hs : s.Balanced) {b : Bus} (hb : Accounts s.devices b) :
    ({ s with bed := b } : State Bus Bus).Balanced := ⟨hb, hs.searches⟩

theorem sparing_hook {b c : Bus} {h : Hook} {r : Reply} (hb : Sparing b)
    (hh : b.hook h = some (r, c)) (hd : (Step.hook h).isAccounted) : Sparing c := by
  cases h with
  | failOn method kind =>
    cases hh
    have hspared : method ≠ .releaseInterface ∧ method ≠ .closeDevice := by
      simpa [Step.isAccounted] using hd
    constructor
    · unfold ReleasesFail
      rw [Loopback.Bus.failOn, Table.contains_insert_of_ne hspared.1]
      exact hb.release
    · rw [Loopback.Bus.failOn, Table.contains_insert_of_ne hspared.2]
      exact hb.close
  | clearFailures =>
    cases hh
    exact ⟨nofun, rfl⟩
  | setReply method reply => cases hh
  | attach devices failures => cases hh
  | _ =>
    cases hh
    exact ⟨hb.release, hb.close⟩

theorem Balanced.hook (hs : s.Balanced) (h : Hook) (hd : (Step.hook h).isAccounted) :
    (s.next (.hook h)).Balanced := by
  have hp : s.perform? (.hook h) = (s.bed.hook h).map fun r => .ok r.1 { s with bed := r.2 } := by
    simp only [perform?, Testbed.hook]
    cases s.bed.hook h <;> rfl
  unfold State.next
  rw [hp]
  cases hb : s.bed.hook h with
  | none => exact hs
  | some r =>
    exact hs.bed (hs.accounts.onto (Loopback.Bus.sameOwners_hook hb)
      (sparing_hook hs.accounts.sparing hb hd))

theorem Balanced.device (hs : s.Balanced) (n : Nat) (call : DeviceCall) :
    (s.next (.device n call)).Balanced := by
  cases hn : s.slot? n with
  | none => rwa [next_of_none (by simp [perform?, hn])]
  | some slot =>
    rw [next_of_perform? (State.onSlot n slot call.perform) (by simp [perform?, hn]; rfl)]
    exact hs.onSlot hn (.call call) fun a => after_bind_pure _ _ _

theorem Balanced.onView (hs : s.Balanced) (v : Nat) (call : ViewCall) :
    (s.next (.onView v call)).Balanced := by
  cases hv : s.views[v]? with
  | none => rwa [next_of_none (by simp [perform?, hv])]
  | some p =>
    obtain ⟨n, view⟩ := p
    cases hn : s.slot? n with
    | none => rwa [next_of_none (by simp [perform?, hv, hn])]
    | some slot =>
      cases ha : (call.perform? view : Option (DeviceAction Bus Reply)) with
      | none => rwa [next_of_none (by simp [perform?, hv, hn, ha])]
      | some act =>
        rw [next_of_perform? (State.onSlot n slot act) (by simp [perform?, hv, hn, ha]; rfl)]
        refine hs.onSlot hn (.onView call view) fun a => ?_
        rw [Use.perform, ha]
        exact after_bind_pure _ _ _

theorem Balanced.view (hs : s.Balanced) (n : Nat) (path : ViewPath) :
    (s.next (.view n path)).Balanced := by
  cases hn : s.slot? n with
  | none => rwa [next_of_none (by simp [perform?, hn])]
  | some slot =>
    rw [next_of_perform? (State.onSlot n slot path.follow >>= fun r =>
      (modify fun s => { s with views := s.views ++ [(n, r.1)] }) >>= fun _ => pure r.2)
      (by simp [perform?, hn]; rfl)]
    have hfollow : (after (State.onSlot n slot path.follow) s).Balanced :=
      hs.onSlot hn (.follow path) fun a => after_bind_pure _ _ _
    rw [after_bind]
    cases outcome (State.onSlot n slot path.follow) s with
    | error e => exact hfollow
    | ok r => exact hfollow.views _

theorem next_drop {n : Nat} {slot : Slot} (hn : s.slot? n = some slot) :
    s.next (.drop n) =
      { s with bed := slot.device.drop s.bed, slots := s.slots.set n none } := by
  simp only [State.next, perform?, dropSlot, hn, Testbed.focus, Testbed.restore]
  rfl

theorem Balanced.drop (hs : s.Balanced) (n : Nat) : (s.next (.drop n)).Balanced := by
  cases hn : s.slot? n with
  | none => rwa [next_of_none (by simp [perform?, hn])]
  | some slot =>
    rw [next_drop hn]
    exact hs.set hn fun rest ha => ha.drop

/-! The steps that take up devices. -/

theorem devices_add (backend : Nat) (d : Device) :
    (after (State.add backend d) s).devices = s.devices ++ [d] := by
  have hadd : after (State.add backend d) s =
      { s with slots := s.slots ++ [some ⟨backend, d⟩] } := rfl
  rw [hadd]
  exact List.filterMap_append

/-- All devices that are found are taken up. -/
theorem after_mapM_add (backend : Nat) (found : List Device) :
    (∃ r, outcome (found.mapM (State.add backend)) s = .ok r) ∧
      (after (found.mapM (State.add backend)) s).devices = s.devices ++ found ∧
      (after (found.mapM (State.add backend)) s).bed = s.bed ∧
      (after (found.mapM (State.add backend)) s).searches = s.searches := by
  induction found generalizing s with
  | nil => exact ⟨⟨[], rfl⟩, (List.append_nil _).symm, rfl, rfl⟩
  | cons d rest ih =>
    have hadd : ∃ c, outcome (State.add backend d) s = .ok c := ⟨_, rfl⟩
    obtain ⟨c, hc⟩ := hadd
    obtain ⟨⟨r, hr⟩, hdevices, hbed, hsearches⟩ := @ih (after (State.add backend d) s)
    rw [List.mapM_cons, outcome_bind_ok _ hc, after_bind_ok _ hc, outcome_bind_ok _ hr,
      after_bind_ok _ hr]
    refine ⟨⟨_, rfl⟩, ?_, hbed, hsearches⟩
    rw [after_pure, hdevices, devices_add, List.append_assoc]
    rfl

/-- No backend can be started on a loopback bus. -/
theorem select_start (order : List BackendKind) (b : Bus) :
    ∃ e, BackendKind.select (Testbed.start : Action Bus Nat) order b = .error e b := by
  induction order with
  | nil => exact ⟨_, rfl⟩
  | cons kind rest ih =>
    have hprobe : ∃ e, BackendKind.probe (Testbed.start : Action Bus Nat) kind b = .error e b := by
      unfold BackendKind.probe
      cases kind.unavailable? with
      | none => exact ⟨_, rfl⟩
      | some e => exact ⟨e, rfl⟩
    obtain ⟨e, he⟩ := hprobe
    obtain ⟨f, hf⟩ := ih
    refine ⟨f, ?_⟩
    simp only [BackendKind.select, bind, EStateM.bind, attempt, he]
    exact hf

/-- A search for other backends than that of the session ends at once. -/
theorem after_chooseBackend (r : SearchRequest) : after (State.chooseBackend r) s = s := by
  unfold State.chooseBackend
  cases r.order with
  | none => rfl
  | some order =>
    obtain ⟨e, he⟩ := select_start order s.bed
    have hon : after (onBed (BackendKind.select Testbed.start order)) s = s := by
      simp only [after, onBed, he]
    exact hon

variable {α : Type}

/-- What is done on the bus, with the devices that it takes up. -/
theorem Balanced.takesUp (hs : s.Balanced) (backend : Nat) (made : α → List Device)
    {act : Action Bus α}
    (hact : TakesUp made s.devices (outcome act s.bed) (after act s.bed))
    {f : α → Action (State Bus Bus) Reply}
    (hf : ∀ r (t : State Bus Bus), (∀ p ∈ t.searches, FairSearch p.search) →
      Accounts (made r ++ t.devices) t.bed → (after (f r) t).Balanced) :
    (after (onBed (Testbed.on backend act) >>= f) s).Balanced := by
  change (after (onBed (Testbed.on 0 act) >>= f) s).Balanced
  rw [after_bind, after_onBed, outcome_onBed]
  cases hr : outcome act s.bed with
  | error e =>
    rw [hr] at hact
    exact hs.bed hact
  | ok r =>
    rw [hr] at hact
    exact hf r { s with bed := after act s.bed } hs.searches hact

theorem balanced_add (hsearches : ∀ p ∈ s.searches, FairSearch p.search) {d : Device}
    (ha : Accounts (d :: s.devices) s.bed) (backend : Nat) {g : Created → Reply} :
    (after (State.add backend d >>= fun c => pure (g c)) s).Balanced := by
  rw [after_bind_pure]
  refine ⟨?_, hsearches⟩
  rw [devices_add]
  exact ha.perm (List.perm_append_singleton d s.devices).symm

theorem Balanced.create (hs : s.Balanced) (id : DeviceId) : (s.next (.create id)).Balanced := by
  rw [next_of_perform? (onBed (Testbed.on 0 (Device.read id)) >>= fun d =>
    State.add 0 d >>= fun c => pure (.created (some c))) rfl]
  have hread := accounts_read hs.accounts id
  refine hs.takesUp 0 (fun d => [d]) ?_ fun d t ht ha => balanced_add ht ha 0
  cases hr : outcome (Device.read id) s.bed with
  | error e => exact hread
  | ok d => exact hread.add (held_of_read hr)

theorem Balanced.first (hs : s.Balanced) (r : SearchRequest) : (s.next (.first r)).Balanced := by
  rw [next_of_perform? _ rfl]
  change (after (State.chooseBackend r >>= _) s).Balanced
  rw [after_bind, after_chooseBackend]
  cases outcome (State.chooseBackend r) s with
  | error e => exact hs
  | ok backend =>
    refine hs.takesUp backend Option.toList (accounts_first (fairSearch_toSearch r) hs.accounts)
      fun found t ht ha => ?_
    cases found with
    | none => exact ⟨ha, ht⟩
    | some d => exact balanced_add ht ha backend

theorem Balanced.all (hs : s.Balanced) (r : SearchRequest) : (s.next (.all r)).Balanced := by
  rw [next_of_perform? (State.chooseBackend r >>= fun backend =>
    onBed (Testbed.on backend r.toSearch.all) >>= fun found =>
      found.mapM (State.add backend) >>= fun l => pure (.createdAll l)) rfl]
  rw [after_bind, after_chooseBackend]
  cases outcome (State.chooseBackend r) s with
  | error e => exact hs
  | ok backend =>
    refine hs.takesUp backend (fun l => l) (accounts_all (fairSearch_toSearch r) hs.accounts)
      fun found t ht ha => ?_
    obtain ⟨-, hdevices, hbed, hsearches⟩ := @after_mapM_add t backend found
    rw [after_bind_pure]
    refine ⟨?_, fun p hp => ht p (hsearches ▸ hp)⟩
    rw [hdevices, hbed]
    exact ha.perm List.perm_append_comm

theorem Balanced.search (hs : s.Balanced) (r : SearchRequest) : (s.next (.search r)).Balanced := by
  rw [next_of_perform? (State.chooseBackend r >>= fun backend =>
    onBed (Testbed.on backend (Backend.devices (σ := Bus))) >>= fun ids =>
      get >>= fun t =>
        (modify fun s => { s with searches := s.searches ++ [⟨backend, r.toSearch, ids⟩] }) >>=
          fun _ => pure (.number t.searches.length)) rfl]
  rw [after_bind, after_chooseBackend]
  cases outcome (State.chooseBackend r) s with
  | error e => exact hs
  | ok backend =>
    have hids := accounts_devices hs.accounts
    refine hs.takesUp backend (fun _ => []) ?_ fun ids t ht ha => ⟨ha, fun p hp => ?_⟩
    · cases outcome (Backend.devices : Action Bus (List DeviceId)) s.bed <;> exact hids
    · rcases List.mem_append.1 hp with hp | hp
      · exact ht p hp
      · cases List.mem_singleton.1 hp
        exact fairSearch_toSearch r

theorem Balanced.next_search (hs : s.Balanced) (m : Nat) : (s.next (.next m)).Balanced := by
  cases hm : s.searches[m]? with
  | none => rwa [next_of_none (by simp [perform?, hm])]
  | some p =>
    rw [next_of_perform? _ (by rw [perform?, hm]; rfl)]
    change (after (onBed (Testbed.on p.backend (p.search.next p.ids)) >>= _) s).Balanced
    have hfair : FairSearch p.search := hs.searches p (List.mem_of_getElem? hm)
    obtain ⟨r, ho, hnext⟩ := accounts_next hfair p.ids hs.accounts
    have htakes : TakesUp (fun r => found r.1) s.devices
        (outcome (p.search.next p.ids) s.bed) (after (p.search.next p.ids) s.bed) := by
      rw [ho]
      exact hnext
    refine hs.takesUp p.backend (fun r => found r.1) htakes fun r t ht ha => ?_
    obtain ⟨item, ids⟩ := r
    have hset : ∀ q ∈ t.searches.set m { p with ids }, FairSearch q.search := by
      intro q hq
      rcases List.mem_or_eq_of_mem_set hq with hq | rfl
      · exact ht q hq
      · exact hfair
    rcases item with _ | ⟨e | d⟩
    case none => exact ⟨ha, hset⟩
    case some.error => exact ⟨ha, hset⟩
    case some.ok =>
      exact @balanced_add { t with searches := t.searches.set m { p with ids } } hset d ha p.backend
        fun c => .created (some c)

/-- Each step through devices and searches keeps the accounts balanced. -/
theorem Balanced.next (hs : s.Balanced) {step : Step} (hd : step.isAccounted) :
    (s.next step).Balanced := by
  cases step with
  | hook h => exact hs.hook h hd
  | create id => exact hs.create id
  | first r => exact hs.first r
  | all r => exact hs.all r
  | search r => exact hs.search r
  | searchText r => exact hs
  | next m => exact hs.next_search m
  | drop n => exact hs.drop n
  | device n call => exact hs.device n call
  | view n path => exact hs.view n path
  | onView v call => exact hs.onView v call
  | backend call => cases hd

theorem balanced_ofBus (specs : List Loopback.Device) : (ofBus (.ofDevices specs)).Balanced := by
  refine ⟨⟨⟨nofun, rfl⟩, fun _ hh => ?_, fun d hd => ?_, fun d hd => ?_, .nil, fun _ hh => ?_⟩,
    fun p hp => ?_⟩
  · cases hh
  · cases hd
  · cases hd
  · cases hh
  · cases hp

theorem Balanced.afterSteps (hs : s.Balanced) {steps : List Step}
    (hd : ∀ step ∈ steps, step.isAccounted) : (s.afterSteps steps).Balanced := by
  induction steps generalizing s with
  | nil => exact hs
  | cons step rest ih =>
    exact ih (hs.next (hd step List.mem_cons_self)) fun x hx => hd x (List.mem_cons_of_mem _ hx)

/-! The end of a session. -/

/-- The device that is put away holds no handle, and no other slot changes. -/
theorem slot?_next_putsAway {step : Step} {k n : Nat} {x : Slot} (hk : step.putsAway? = some k)
    (hx : (s.next step).slot? n = some x) :
    x.device.held.handle = none ∨ n ≠ k ∧ s.slot? n = some x := by
  have hfree : s.slot? k = none → s.slot? n = some x → n ≠ k := by
    intro hnone hsome heq
    rw [heq, hnone] at hsome
    cases hsome
  cases hslot : s.slot? k with
  | none =>
    have hsame : s.next step = s := by
      apply next_of_none
      cases step with
      | drop m =>
        cases hk
        simp [perform?, hslot]
      | device m call =>
        cases call <;> cases hk
        simp [perform?, hslot]
      | _ => cases hk
    rw [hsame] at hx
    exact .inr ⟨hfree hslot hx, hx⟩
  | some slot =>
    cases step with
    | drop m =>
      cases hk
      rw [next_drop hslot] at hx
      rcases slot?_set s _ hx with ⟨-, hnone⟩ | hother
      · cases hnone
      · exact .inr hother
    | device m call =>
      cases call <;> cases hk
      rw [next_of_perform? (State.onSlot k slot (DeviceCall.dispose).perform)
        (by simp [perform?, hslot]; rfl), after_onSlot] at hx
      rcases slot?_set s _ hx with ⟨-, hsome⟩ | hother
      · left
        cases hsome
        rw [DeviceCall.perform, unitReply, after_bind_pure]
        exact Device.handle_after_dispose _
      · exact .inr hother
    | _ => cases hk

/-- What is not put away stays as it was. -/
theorem slot?_afterSteps_putsAway {ends : List Step} {n : Nat} {x : Slot}
    (hends : ∀ step ∈ ends, step.putsAway?.isSome) (hx : (s.afterSteps ends).slot? n = some x) :
    x.device.held.handle = none ∨
      s.slot? n = some x ∧ ∀ step ∈ ends, step.putsAway? ≠ some n := by
  induction ends generalizing s with
  | nil => exact .inr ⟨hx, fun _ hstep => by cases hstep⟩
  | cons step rest ih =>
    obtain ⟨k, hk⟩ := Option.isSome_iff_exists.1 (hends step List.mem_cons_self)
    rcases ih (fun y hy => hends y (List.mem_cons_of_mem _ hy)) hx with hnone | ⟨hnext, hrest⟩
    · exact .inl hnone
    · rcases slot?_next_putsAway hk hnext with hnone | ⟨hne, hslot⟩
      · exact .inl hnone
      · refine .inr ⟨hslot, fun y hy => ?_⟩
        rcases List.mem_cons.1 hy with rfl | hy
        · rw [hk]
          exact fun heq => hne (Option.some.inj heq).symm
        · exact hrest y hy

theorem mem_devices {d : Device} (hd : d ∈ s.devices) :
    ∃ n slot, s.slot? n = some slot ∧ slot.device = d := by
  obtain ⟨o, ho, hmap⟩ := List.mem_filterMap.1 hd
  obtain ⟨slot, rfl, hdevice⟩ := Option.map_eq_some_iff.1 hmap
  obtain ⟨n, hn⟩ := List.mem_iff_getElem?.1 ho
  exact ⟨n, slot, by rw [slot?, hn]; rfl, hdevice⟩

/-- Where no device holds a handle, nothing is open or claimed. -/
theorem Balanced.nothing_open (hs : s.Balanced) (hidle : ∀ d ∈ s.devices, d.held.handle = none) :
    s.bed.openHandles = 0 ∧ ∀ id, s.bed.claimedInterfaces id = [] := by
  constructor
  · rw [hs.accounts.openHandles, List.length_eq_zero_iff, List.filter_eq_nil_iff]
    intro d hd
    simp [hidle d hd]
  · intro id
    have hnone : ((s.devices.filter fun d => d.id == id).flatMap fun d => d.held.claimed.keys) =
        [] := by
      rw [List.flatMap_eq_nil_iff]
      intro d hd
      have hmem : d ∈ s.devices := (List.mem_filter.1 hd).1
      rw [(hs.accounts.owned d hmem).closed (hidle d hmem)]
      rfl
    rw [hs.accounts.claimedInterfaces, hnone, List.mergeSort_nil]

theorem isAccounted_of_putsAway {step : Step} (h : step.putsAway?.isSome) : step.isAccounted := by
  cases step <;> first | rfl | cases h

/-- Any number of devices on one bus, made and dropped and used in any order, with all failures but
those of releases and closes: as many handles are open as live devices hold one, the claims on the
bus are those of the devices, and once every device was disposed of or dropped nothing is left. -/
theorem open_and_claimed_by_devices (specs : List Loopback.Device) (steps : List Step)
    (hd : ∀ step ∈ steps, step.isAccounted) :
    let s := (ofBus (.ofDevices specs)).afterSteps steps
    s.bed.openHandles = (s.devices.filter fun d => d.held.handle.isSome).length ∧
    (∀ id, s.bed.claimedInterfaces id =
      ((s.devices.filter fun d => d.id == id).flatMap fun d => d.held.claimed.keys).mergeSort) ∧
    ∀ ends : List Step, (∀ step ∈ ends, step.putsAway?.isSome) →
      (∀ n slot, s.slot? n = some slot → ∃ step ∈ ends, step.putsAway? = some n) →
      (s.afterSteps ends).bed.openHandles = 0 ∧
        ∀ id, (s.afterSteps ends).bed.claimedInterfaces id = [] := by
  intro s
  have hs : s.Balanced := (balanced_ofBus specs).afterSteps hd
  refine ⟨hs.accounts.openHandles, hs.accounts.claimedInterfaces, fun ends hends hall => ?_⟩
  have hbalanced : (s.afterSteps ends).Balanced :=
    hs.afterSteps fun step hstep => isAccounted_of_putsAway (hends step hstep)
  apply hbalanced.nothing_open
  intro d hmem
  obtain ⟨n, slot, hn, rfl⟩ := mem_devices hmem
  rcases slot?_afterSteps_putsAway hends hn with hnone | ⟨hslot, hnever⟩
  · exact hnone
  · obtain ⟨step, hstep, hk⟩ := hall n slot hslot
    exact absurd hk (hnever step hstep)

/-- One device fails to claim after it has opened its handle, the other one claims and writes. -/
theorem open_and_claimed_by_devices_failed_claim :
    let steps : List Step :=
      [.create ⟨0⟩, .create ⟨0⟩, .hook (.failOn .claimInterface .busy),
        .device 0 (.write 0x01 [1] none none), .hook .clearFailures,
        .device 1 (.write 0x01 [2] none none)]
    let s := (ofBus (.ofDevices [Loopback.Device.bulkLoopback 1 2])).afterSteps steps
    s.bed.openHandles = (s.devices.filter fun d => d.held.handle.isSome).length ∧
      s.bed.openHandles = 2 ∧ s.bed.claimedInterfaces ⟨0⟩ = [0] ∧
      (s.afterSteps [.drop 1, .device 0 .dispose]).bed.openHandles = 0 := by
  intro steps s
  obtain ⟨hopen, -, hends⟩ := open_and_claimed_by_devices [Loopback.Device.bulkLoopback 1 2] steps
    (by decide)
  have hall : ∀ n slot, s.slot? n = some slot →
      ∃ step ∈ [Step.drop 1, .device 0 .dispose], step.putsAway? = some n := by
    intro n slot hn
    have hlength : s.slots.length = 2 := by decide +kernel
    match n with
    | 0 => exact ⟨_, List.mem_cons_of_mem _ List.mem_cons_self, rfl⟩
    | 1 => exact ⟨_, List.mem_cons_self, rfl⟩
    | n + 2 =>
      rw [slot?, List.getElem?_eq_none (by omega)] at hn
      cases hn
  exact ⟨hopen, by decide +kernel, by decide +kernel, (hends _ (by decide) hall).1⟩

end State

end SerialBus.Session
