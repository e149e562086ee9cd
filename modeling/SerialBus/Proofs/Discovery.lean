import SerialBus.Proofs.Claims.Disposal
import SerialBus.Proofs.Gives
import SerialBus.Proofs.Loopback.Reading
import SerialBus.Search

/-! What a search finds: the devices of the enumeration that pass its filters and its test, in
order, and a failure for each descriptor that cannot be read. No descriptor is read before it is
needed. -/
namespace SerialBus

open SerialBus.Action Session

variable {σ : Type}

/-- A search whose test does nothing but look at the device. -/
structure Query where
  order : List BackendKind := BackendKind.priority
  filters : List (DeviceField × Nat) := []
  test : Option (Device → Bool) := none
  defaultTimeout : Option Nat := none

/-- What a whole sequence of items comes to if only the first one is read. -/
def firstOf {α : Type} (items : List (Except UsbError α)) : Except UsbError (Option α) :=
  match items.head? with
  | none => .ok none
  | some (.ok a) => .ok (some a)
  | some (.error e) => .error e

namespace Query

/-- The search on a backend with states `σ`. -/
def on (q : Query) (σ : Type) : Search σ where
  order := q.order
  filters := q.filters
  predicate := q.test.map fun test a => (test a.device, a)
  defaultTimeout := q.defaultTimeout

/-- A device is wanted if its descriptor has the values of all filters and it passes the test. -/
def Wants (q : Query) (d : Device) : Prop :=
  (∀ f ∈ q.filters, f.1.Has d.descriptor f.2) ∧ ∀ test ∈ q.test, test d = true

instance (q : Query) (d : Device) : Decidable (q.Wants d) :=
  inferInstanceAs (Decidable (_ ∧ ∀ test ∈ q.test, test d = true))

/-- What a device comes to whose descriptor reads like that: an item, or nothing. -/
def verdict (q : Query) (id : DeviceId) :
    Except UsbError DeviceDescriptor → Option (Except UsbError Device)
  | .error e => some (.error e)
  | .ok descriptor =>
    let d : Device := { id, descriptor }
    if q.Wants d then some (.ok { d with defaultTimeout := q.defaultTimeout.getD d.defaultTimeout })
    else none

section

variable (q : Query) (read : DeviceId → Except UsbError DeviceDescriptor)

/-- The items for a list of devices, whose descriptors read as `read` says. -/
def items (ids : List DeviceId) : List (Except UsbError Device) :=
  ids.filterMap fun id => q.verdict id (read id)

/-- Whether a device comes to nothing. -/
def skips (id : DeviceId) : Bool := (q.verdict id (read id)).isNone

/-- The devices up to and including the one of the first item, all of them if there is no item. -/
def touched (ids : List DeviceId) : List DeviceId :=
  ids.takeWhile (q.skips read) ++ (ids.dropWhile (q.skips read)).take 1

/-- The devices behind the one of the first item. -/
def untouched (ids : List DeviceId) : List DeviceId := (ids.dropWhile (q.skips read)).drop 1

end

/-- The errors of the descriptors that cannot be read. -/
def failures (read : DeviceId → Except UsbError DeviceDescriptor) (ids : List DeviceId) :
    List UsbError :=
  ids.filterMap fun id =>
    match read id with
    | .ok _ => none
    | .error e => some e

/-- The devices among the items. -/
def devices (items : List (Except UsbError Device)) : List Device := items.filterMap Except.toOption

section

variable {q : Query} {read : DeviceId → Except UsbError DeviceDescriptor} {id : DeviceId}
  {ids : List DeviceId}

theorem items_cons_of_none (h : q.verdict id (read id) = none) :
    q.items read (id :: ids) = q.items read ids := by
  simp [items, h]

theorem items_cons_of_some {item : Except UsbError Device} (h : q.verdict id (read id) = some item) :
    q.items read (id :: ids) = item :: q.items read ids := by
  simp [items, h]

theorem touched_cons_of_none (h : q.verdict id (read id) = none) :
    q.touched read (id :: ids) = id :: q.touched read ids := by
  simp [touched, skips, h]

theorem touched_cons_of_some {item : Except UsbError Device}
    (h : q.verdict id (read id) = some item) : q.touched read (id :: ids) = [id] := by
  simp [touched, skips, h]

theorem untouched_cons_of_none (h : q.verdict id (read id) = none) :
    q.untouched read (id :: ids) = q.untouched read ids := by
  simp [untouched, skips, h]

theorem untouched_cons_of_some {item : Except UsbError Device}
    (h : q.verdict id (read id) = some item) : q.untouched read (id :: ids) = ids := by
  simp [untouched, skips, h]

theorem length_untouched (q : Query) (read : DeviceId → Except UsbError DeviceDescriptor)
    (ids : List DeviceId) : (q.untouched read ids).length ≤ ids.length - 1 := by
  have h : (ids.dropWhile (q.skips read)).length ≤ ids.length :=
    (List.dropWhile_suffix _).length_le
  simp only [untouched, List.length_drop]
  omega

/-- Behind the first item stand those of the devices that have not been touched. -/
theorem items_eq_cons {item : Except UsbError Device} (h : (q.items read ids).head? = some item) :
    q.items read ids = item :: q.items read (q.untouched read ids) := by
  induction ids with
  | nil => cases h
  | cons id rest ih =>
    cases hv : q.verdict id (read id) with
    | none =>
      rw [items_cons_of_none hv] at h ⊢
      rw [untouched_cons_of_none hv]
      exact ih h
    | some first =>
      rw [items_cons_of_some hv] at h ⊢
      rw [untouched_cons_of_some hv]
      cases h
      rfl

theorem touched_append_untouched (q : Query) (read : DeviceId → Except UsbError DeviceDescriptor)
    (ids : List DeviceId) : q.touched read ids ++ q.untouched read ids = ids := by
  rw [touched, untouched, List.append_assoc, List.take_append_drop, List.takeWhile_append_dropWhile]

/-- Where all descriptors can be read, all items are devices. -/
theorem items_of_failures (h : failures read ids = []) :
    q.items read ids = (devices (q.items read ids)).map .ok := by
  induction ids with
  | nil => rfl
  | cons id rest ih =>
    cases hr : read id with
    | error e => simp [failures, hr] at h
    | ok descriptor =>
      have hrest : failures read rest = [] := by simpa [failures, hr] using h
      by_cases hw : q.Wants { id, descriptor }
      · have hv : q.verdict id (read id) = some (.ok
            { id, descriptor, defaultTimeout := q.defaultTimeout.getD 1000 }) := by
          simp [verdict, hr, hw]
        rw [items_cons_of_some hv]
        simp only [devices, List.filterMap_cons, Except.toOption, List.map_cons]
        exact congrArg _ (ih hrest)
      · have hv : q.verdict id (read id) = none := by simp [verdict, hr, hw]
        rw [items_cons_of_none hv]
        exact ih hrest

end

section

variable [Backend σ] {q : Query}

/-- A device that was read holds nothing, and is put away without any call. -/
theorem drop_of_none {d : Device} (hd : d.held.handle = none) (b : σ) : d.drop b = b := by
  have hdispose := Disposal.dispose_of_none (a := (⟨d, b⟩ : Attachment σ)) hd true
  rw [Device.drop_eq, hdispose.2]
  rfl

omit [Backend σ] in
/-- The filters of the search compare what stands in the descriptor. -/
theorem admits_on (q : Query) (d : DeviceDescriptor) :
    (q.on σ).admits d = true ↔ ∀ f ∈ q.filters, f.1.Has d f.2 := by
  have hfilter : ∀ f : DeviceField × Nat,
      (f.1.value? d == some f.2) = true ↔ f.1.Has d f.2 := fun f => by
    rw [beq_iff_eq]
    exact DeviceField.value?_eq_some_iff
  simp only [Search.admits, on, List.all_eq_true, hfilter]

theorem judge_on {d : Device} (hd : d.held.handle = none) (b : σ) :
    (q.on σ).judge d b = .ok (if q.Wants d then some d else none) b := by
  unfold Search.judge
  by_cases hfilters : ∀ f ∈ q.filters, f.1.Has d.descriptor f.2
  · rw [if_pos ((admits_on q d.descriptor).2 hfilters)]
    cases ht : q.test with
    | none =>
      have hw : q.Wants d := ⟨hfilters, by simp [ht]⟩
      simp [on, ht, hw]
    | some test =>
      have hw : q.Wants d ↔ test d = true := by
        rw [Wants, and_iff_right hfilters, ht]
        simp
      cases htest : test d <;> simp [on, ht, hw, htest, drop_of_none hd]
  · have hw : ¬ q.Wants d := fun hw => hfilters hw.1
    rw [if_neg (mt (admits_on q d.descriptor).1 hfilters), if_neg hw]

/-- The descriptors of the devices are read, one after the other. -/
def readAll (ids : List DeviceId) (b : σ) : σ :=
  ids.foldl (fun b id => after (Backend.deviceDescriptor id) b) b

variable {I : σ → Prop} {read : DeviceId → Except UsbError DeviceDescriptor} {b : σ}

/-- The descriptors can be read in any number and order, with the same results. -/
def Fixed (I : σ → Prop) (read : DeviceId → Except UsbError DeviceDescriptor) : Prop :=
  ∀ id, Gives I (Backend.deviceDescriptor id) (read id) I

theorem Fixed.readAll (h : Fixed I read) (hb : I b) (ids : List DeviceId) : I (readAll ids b) := by
  induction ids generalizing b with
  | nil => exact hb
  | cons id rest ih => exact ih (h id b hb).2

theorem item_on (h : Fixed I read) (hb : I b) (id : DeviceId) : (q.on σ).item id b =
    .ok (q.verdict id (read id)) (after (Backend.deviceDescriptor id) b) := by
  have hread : attempt (Device.read id) b = .ok
      ((read id).map fun descriptor => { id, descriptor }) (after (Backend.deviceDescriptor id) b) := by
    rw [eq_ok_iff, outcome_attempt, after_attempt, Device.read, outcome_bind_pure, after_bind_pure,
      (h id b hb).1]
    exact ⟨rfl, rfl⟩
  unfold Search.item
  rw [bind_eq_of_ok _ hread]
  cases hr : read id with
  | error e => rfl
  | ok descriptor =>
    have hjudge := judge_on (q := q) (d := { id, descriptor }) rfl
      (after (Backend.deviceDescriptor id) b)
    simp only [Except.map]
    rw [bind_eq_of_ok _ hjudge]
    unfold verdict
    by_cases hw : q.Wants { id, descriptor }
    · simp only [hw, if_true]
      cases ht : q.defaultTimeout with
      | none => simp [Search.prepare, on, ht, pure, EStateM.pure]
      | some timeout => simp [Search.prepare, on, ht, pure, EStateM.pure]
    · simp only [hw]
      rfl

/-- The next item, which is the first one of those that are left. -/
theorem next_on (h : Fixed I read) (hb : I b) (ids : List DeviceId) : (q.on σ).next ids b =
    .ok ((q.items read ids).head?, q.untouched read ids) (readAll (q.touched read ids) b) := by
  induction ids generalizing b with
  | nil => rfl
  | cons id rest ih =>
    have hitem := item_on (q := q) h hb id
    unfold Search.next
    rw [bind_eq_of_ok _ hitem]
    cases hv : q.verdict id (read id) with
    | none =>
      rw [items_cons_of_none hv, untouched_cons_of_none hv, touched_cons_of_none hv]
      exact ih (h id b hb).2
    | some item =>
      rw [items_cons_of_some hv, untouched_cons_of_some hv, touched_cons_of_some hv]
      rfl

theorem outcome_first_on {ids : List DeviceId} (h : Fixed I read)
    (hids : outcome Backend.devices b = .ok ids) (hb : I (after Backend.devices b)) :
    outcome (q.on σ).first b = firstOf (q.items read ids) ∧
      after (q.on σ).first b = readAll (q.touched read ids) (after Backend.devices b) := by
  have hnext := next_on (q := q) h hb ids
  have hdevices : (Backend.devices : Action σ (List DeviceId)) b =
      .ok ids (after Backend.devices b) := eq_ok_iff.2 ⟨hids, rfl⟩
  unfold Search.first firstOf
  change outcome (Backend.devices >>= _) b = _ ∧ after (Backend.devices >>= _) b = _
  rw [outcome, after, bind_eq_of_ok _ hdevices, bind_eq_of_ok _ hnext]
  cases (q.items read ids).head? with
  | none => exact ⟨rfl, rfl⟩
  | some item =>
    cases item with
    | error e => exact ⟨rfl, rfl⟩
    | ok d => exact ⟨rfl, rfl⟩

/-- What is found behind what was found before, unless a descriptor cannot be read. -/
theorem outcome_collect_on (h : Fixed I read) (hb : I b) (found : List Device)
    (ids : List DeviceId) : outcome ((q.on σ).collect found ids) b =
      match (failures read ids).head? with
      | none => .ok (found ++ devices (q.items read ids))
      | some e => .error e := by
  induction ids generalizing found b with
  | nil => simp [Search.collect, failures, items, devices]
  | cons id rest ih =>
    have hitem := item_on (q := q) h hb id
    have hrest := (h id b hb).2
    unfold Search.collect
    rw [outcome_congr (bind_eq_of_ok _ hitem)]
    cases hr : read id with
    | error e =>
      have hfail : failures read (id :: rest) = e :: failures read rest := by simp [failures, hr]
      rw [hfail]
      rfl
    | ok descriptor =>
      have hfail : failures read (id :: rest) = failures read rest := by simp [failures, hr]
      rw [hfail]
      by_cases hw : q.Wants { id, descriptor }
      · have hv : q.verdict id (read id) = some (.ok
            { id, descriptor, defaultTimeout := q.defaultTimeout.getD 1000 }) := by
          simp [verdict, hr, hw]
        rw [items_cons_of_some hv, ← hr, hv]
        have hdevices := ih hrest (found ++
          [{ id, descriptor, defaultTimeout := q.defaultTimeout.getD 1000 }])
        rw [List.append_assoc] at hdevices
        exact hdevices
      · have hv : q.verdict id (read id) = none := by simp [verdict, hr, hw]
        rw [items_cons_of_none hv, ← hr, hv]
        exact ih hrest found

theorem outcome_all_on {ids : List DeviceId} (h : Fixed I read)
    (hids : outcome Backend.devices b = .ok ids) (hb : I (after Backend.devices b)) :
    outcome (q.on σ).all b =
      match (failures read ids).head? with
      | none => .ok (devices (q.items read ids))
      | some e => .error e := by
  unfold Search.all
  rw [outcome_bind_ok _ hids, outcome_collect_on h hb, List.nil_append]

end

end Query

/-- The items of a search one by one; a position is the list of the devices that are left. -/
def Search.cursor [Backend σ] (s : Search σ) : Cursor σ (List DeviceId) Device where
  next ids := do
    match ← s.next ids with
    | (none, _) => return none
    | (some item, rest) => return some (item, rest)
  bound ids := ids.length

/-- The calls that an operation makes from a state on. -/
def callsOf {α : Type} (act : Action (Watched σ) α) (b : σ) : List BackendCall :=
  (after act ⟨b, []⟩).log.map Sent.call

/-- Filters count as a set: searches whose filters have the same members judge alike. -/
theorem Search.item_congr [Backend σ] (s : Search σ) {filters : List (DeviceField × Nat)}
    (h : ∀ f, f ∈ filters ↔ f ∈ s.filters) (id : DeviceId) :
    Search.item { s with filters } id = s.item id := by
  have hadmits : Search.admits { s with filters } = s.admits := by
    funext d
    rw [Bool.eq_iff_iff]
    simp only [Search.admits, List.all_eq_true]
    exact forall_congr' fun f => by rw [h f]
  have hjudge : Search.judge { s with filters } = s.judge := by
    funext d b
    simp only [Search.judge, hadmits]
  simp only [Search.item, hjudge]
  rfl

theorem Search.next_congr [Backend σ] (s : Search σ) {filters : List (DeviceField × Nat)}
    (h : ∀ f, f ∈ filters ↔ f ∈ s.filters) : Search.next { s with filters } = s.next := by
  funext ids
  induction ids with
  | nil => rfl
  | cons id rest ih =>
    unfold Search.next
    rw [ih, s.item_congr h]

theorem Search.collect_congr [Backend σ] (s : Search σ) {filters : List (DeviceField × Nat)}
    (h : ∀ f, f ∈ filters ↔ f ∈ s.filters) : Search.collect { s with filters } = s.collect := by
  funext found ids
  induction ids generalizing found with
  | nil => rfl
  | cons id rest ih =>
    unfold Search.collect
    simp only [ih, s.item_congr h]

namespace Query

section

variable [Backend σ] {q : Query} {I : σ → Prop} {b : σ}
  {read : DeviceId → Except UsbError DeviceDescriptor} {ids : List DeviceId}

theorem readAll_append (ids more : List DeviceId) (b : σ) :
    readAll (ids ++ more) b = readAll more (readAll ids b) := List.foldl_append

theorem untouched_of_head? (h : (q.items read ids).head? = none) : q.untouched read ids = [] := by
  induction ids with
  | nil => rfl
  | cons id rest ih =>
    cases hv : q.verdict id (read id) with
    | none =>
      rw [items_cons_of_none hv] at h
      rw [untouched_cons_of_none hv]
      exact ih h
    | some item =>
      rw [items_cons_of_some hv] at h
      cases h

/-- Step by step a search yields all items, and reads each descriptor once. -/
theorem items_on (h : Fixed I read) (hb : I b) (ids : List DeviceId) :
    (q.on σ).cursor.items ids b = .ok (q.items read ids) (readAll ids b) := by
  have hupTo : ∀ (fuel : Nat) (ids : List DeviceId) (b : σ), ids.length ≤ fuel → I b →
      (q.on σ).cursor.forEachUpTo (fun item => pure item) fuel ids b =
        .ok (q.items read ids) (readAll ids b) := by
    intro fuel
    induction fuel with
    | zero =>
      intro ids b hlength hb
      obtain rfl : ids = [] := List.length_eq_zero_iff.1 (Nat.le_zero.1 hlength)
      rfl
    | succ fuel ih =>
      intro ids b hlength hb
      have hsplit := q.touched_append_untouched read ids
      have hnext : (q.on σ).cursor.next ids b = .ok
          ((q.items read ids).head?.map fun item => (item, q.untouched read ids))
          (readAll (q.touched read ids) b) := by
        simp only [Search.cursor]
        rw [bind_eq_of_ok _ (next_on h hb ids)]
        cases (q.items read ids).head? <;> rfl
      unfold Cursor.forEachUpTo
      rw [bind_eq_of_ok _ hnext]
      cases hhead : (q.items read ids).head? with
      | none =>
        rw [untouched_of_head? hhead, List.append_nil] at hsplit
        rw [hsplit, List.head?_eq_none_iff.1 hhead]
        rfl
      | some item =>
        have hshorter : (q.untouched read ids).length ≤ fuel := by
          have := q.length_untouched read ids
          omega
        have hrest := ih (q.untouched read ids) _ hshorter (h.readAll hb (q.touched read ids))
        rw [← readAll_append, hsplit] at hrest
        rw [items_eq_cons hhead]
        exact bind_eq_of_ok _ hrest
  exact hupTo ids.length ids b (Nat.le_refl _) hb

theorem Fixed.watched (h : Fixed I read) : Fixed (fun w : Watched σ => I w.inner) read := by
  intro id w hw
  obtain ⟨ho, hs⟩ := h id w.inner hw
  change outcome (Watched.watch _ _) w = _ ∧ I (after (Watched.watch _ _) w).inner
  rw [Watched.outcome_watch, Watched.after_watch]
  exact ⟨ho, hs⟩

theorem log_readAll (ids : List DeviceId) (w : Watched σ) :
    (readAll ids w).log.map Sent.call =
      w.log.map Sent.call ++ ids.map BackendCall.deviceDescriptor := by
  induction ids generalizing w with
  | nil => simp [readAll]
  | cons id rest ih =>
    have hone : (after (Backend.deviceDescriptor id) w).log.map Sent.call =
        w.log.map Sent.call ++ [.deviceDescriptor id] := by
      change (after (Watched.watch _ _) w).log.map Sent.call = _
      rw [Watched.after_watch]
      simp
    have hall := ih (after (Backend.deviceDescriptor id) w)
    rw [hone] at hall
    simpa [readAll] using hall

/-- What a query finds on a bus that enumerates `ids`, where descriptors read as `read` says. -/
structure Finds (q : Query) (I : σ → Prop) (read : DeviceId → Except UsbError DeviceDescriptor)
    (ids : List DeviceId) (b : σ) : Prop where
  /-- Item by item, the search goes on behind failures, and yields what each device comes to. -/
  sequence : outcome ((q.on σ).cursor.items ids) (after Backend.devices b) = .ok (q.items read ids)
  /-- A place on the bus that is not known matches no value of a filter. -/
  unknown : ∀ id descriptor n, read id = .ok descriptor →
    (.bus, n) ∈ q.filters ∧ descriptor.bus = none ∨
      (.address, n) ∈ q.filters ∧ descriptor.address = none ∨
      (.portNumber, n) ∈ q.filters ∧ descriptor.portNumber = none →
    q.verdict id (read id) = none
  first : outcome (q.on σ).first b = firstOf (q.items read ids)
  all : outcome (q.on σ).all b =
    match (failures read ids).head? with
    | none => .ok (devices (q.items read ids))
    | some e => .error e
  head : ∀ found, outcome (q.on σ).all b = .ok found → outcome (q.on σ).first b = .ok found.head?
  /-- Neither the order nor the repetition of filters matters. -/
  unordered : ∀ filters, (∀ f, f ∈ filters ↔ f ∈ q.filters) →
    (Query.on { q with filters } σ).first = (q.on σ).first ∧
      (Query.on { q with filters } σ).all = (q.on σ).all ∧
      (Query.on { q with filters } σ).next = (q.on σ).next
  /-- The first item needs the descriptors of the devices up to its own, once each and in order. -/
  touches : callsOf (q.on (Watched σ)).first b =
    .devices :: (q.touched read ids).map BackendCall.deviceDescriptor
  /-- So does each item after it, from the devices that are left. -/
  continues : ∀ left c, I c →
    outcome ((q.on σ).next left) c = .ok ((q.items read left).head?, q.untouched read left) ∧
      callsOf ((q.on (Watched σ)).next left) c =
        (q.touched read left).map BackendCall.deviceDescriptor

/-- A search finds what the filtered enumeration has, and reads it lazily. -/
theorem finds (q : Query) (h : Fixed I read) (hids : outcome Backend.devices b = .ok ids)
    (hb : I (after Backend.devices b)) : q.Finds I read ids b := by
  have hfirst := (outcome_first_on (q := q) h hids hb).1
  have hall := outcome_all_on (q := q) h hids hb
  constructor
  · exact (eq_ok_iff.1 (items_on h hb ids)).1
  · intro id descriptor n hr hunknown
    have hw : ¬ q.Wants { id, descriptor } := by
      intro hw
      obtain ⟨hf, hnone⟩ | ⟨hf, hnone⟩ | ⟨hf, hnone⟩ := hunknown
      all_goals
        have hvalue := DeviceField.value?_eq_some_iff.2 (hw.1 _ hf)
        simp [DeviceField.value?, hnone] at hvalue
    rw [hr]
    exact if_neg hw
  · exact hfirst
  · exact hall
  · intro found hfound
    rw [hall] at hfound
    cases hnone : (failures read ids).head? with
    | some e => simp [hnone] at hfound
    | none =>
      have hitems := items_of_failures (q := q) (List.head?_eq_none_iff.1 hnone)
      rw [hnone] at hfound
      rw [Except.ok.inj hfound] at hitems
      rw [hfirst, firstOf, hitems, List.head?_map]
      cases found.head? <;> rfl
  · intro filters hsame
    have hnext : (Query.on { q with filters } σ).next = (q.on σ).next :=
      (q.on σ).next_congr hsame
    have hcollect : (Query.on { q with filters } σ).collect = (q.on σ).collect :=
      (q.on σ).collect_congr hsame
    refine ⟨?_, ?_, hnext⟩
    · unfold Search.first
      rw [hnext]
    · unfold Search.all
      rw [hcollect]
  · have hafter : after (Backend.devices : Action (Watched σ) _) ⟨b, []⟩ =
        ⟨after Backend.devices b, [⟨.devices, b⟩]⟩ := Watched.after_watch _ _ _
    have hwatched : outcome (Backend.devices : Action (Watched σ) _) ⟨b, []⟩ = .ok ids :=
      (Watched.outcome_watch _ _ _).trans hids
    have hstate := (outcome_first_on (q := q) h.watched hwatched (by rw [hafter]; exact hb)).2
    rw [callsOf, hstate, log_readAll, hafter]
    rfl
  · intro left c hc
    have hwatched := next_on (q := q) h.watched (b := ⟨c, []⟩) hc left
    refine ⟨(eq_ok_iff.1 (next_on h hc left)).1, ?_⟩
    rw [callsOf, (eq_ok_iff.1 hwatched).2, log_readAll]
    rfl

end

/-- On a loopback bus the descriptors can be read like that until something is made to fail or no
longer made to. -/
theorem fixed_loopback (c : Loopback.Bus) :
    Fixed (Loopback.AtCore c) fun id => outcome (Backend.deviceDescriptor id) c := by
  intro id
  apply Loopback.gives_of_core
  · intro b hb
    change outcome (Loopback.Bus.deviceDescriptor id) b = outcome (Loopback.Bus.deviceDescriptor id) c
    rw [Loopback.Bus.deviceDescriptor_eq_serve, Loopback.Bus.outcome_serve,
      Loopback.Bus.outcome_serve, hb.failures, Loopback.Bus.withDevice, hb.device?,
      Loopback.Bus.withDevice]
  · exact Loopback.Bus.core_deviceDescriptor id

/-- A descriptor that is to be told from others by each of its fields. -/
def sought : DeviceDescriptor where
  usbVersion := 0x0210
  deviceClass := 2
  deviceSubclass := 3
  deviceProtocol := 4
  maxPacketSize0 := 8
  vendorId := 0x04D8
  productId := 0xFA2E
  deviceVersion := 0x0101
  manufacturerIndex := 5
  productIndex := 6
  serialNumberIndex := 7
  numConfigurations := 1
  bus := some 9
  address := some 10
  portNumber := some 11

/-- Descriptors that differ from the one above in one field each, or do not know a place. -/
def alike : List DeviceDescriptor :=
  [{ sought with usbVersion := 0x0200 }, { sought with deviceClass := 0xFF },
   { sought with deviceSubclass := 0 }, { sought with deviceProtocol := 0 },
   { sought with maxPacketSize0 := 64 }, { sought with vendorId := 0xFA2E },
   { sought with productId := 0x04D8 }, { sought with deviceVersion := 0x0100 },
   { sought with manufacturerIndex := 6 }, { sought with productIndex := 7 },
   { sought with serialNumberIndex := 5 }, { sought with numConfigurations := 0 },
   { sought with bus := some 10 }, { sought with address := some 9 },
   { sought with portNumber := some 9 }, { sought with bus := none },
   { sought with address := none }, { sought with portNumber := none }]

/-- Filters on all fields find the two devices that pass each of them. The search for the first one
leaves the other alone. -/
theorem finds_behind_alike :
    let b := Loopback.Bus.ofDevices
      ((alike ++ [sought, sought]).map fun d => { Loopback.Device.ofDescriptor d with descriptor := d })
    let q : Query := { filters :=
      [(.usbVersion, 0x0210), (.deviceClass, 2), (.deviceSubclass, 3), (.deviceProtocol, 4),
       (.maxPacketSize0, 8), (.vendorId, 0x04D8), (.productId, 0xFA2E), (.deviceVersion, 0x0101),
       (.manufacturerIndex, 5), (.productIndex, 6), (.serialNumberIndex, 7),
       (.numConfigurations, 1), (.bus, 9), (.address, 10), (.portNumber, 11)] }
    (outcome (q.on Loopback.Bus).first b).map (Option.map Device.id) = .ok (some ⟨18⟩) ∧
      (outcome (q.on Loopback.Bus).all b).map (List.map Device.id) = .ok [⟨18⟩, ⟨19⟩] ∧
      callsOf (q.on (Watched Loopback.Bus)).first b =
        .devices :: (List.range 19).map fun n => .deviceDescriptor ⟨n⟩ := by
  intro b q
  have hids : outcome Backend.devices b = .ok ((List.range 20).map DeviceId.mk) := by rfl
  have hcore : Loopback.AtCore b (after Backend.devices b) := by rfl
  have h := finds q (fixed_loopback b) hids hcore
  have htouched : q.touched (fun id => outcome (Backend.deviceDescriptor id) b)
      ((List.range 20).map DeviceId.mk) = (List.range 19).map DeviceId.mk := by
    decide +kernel
  refine ⟨?_, ?_, ?_⟩
  · rw [h.first]
    rfl
  · rw [h.all]
    rfl
  · rw [h.touches, htouched, List.map_map]
    rfl

end Query

end SerialBus
