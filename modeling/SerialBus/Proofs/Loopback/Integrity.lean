import SerialBus.Proofs.Loopback.Frames
import SerialBus.Proofs.Loopback.Pipes
import SerialBus.Proofs.Loopback.Served

/-! Loopback buses in every state that calls and changes from outside lead to. The tables of a bus
fit together: an open handle is for a device that is there, its number is not given out again, and
alternates are selected on claimed interfaces only. A call that fails is counted, and all else stays
as it was. -/
namespace SerialBus.Loopback.Bus

open SerialBus.Action Session

variable {α : Type} {b c : Bus}

/-- The handle is for a device of the bus, has a number that was given out before, and has
alternates selected on interfaces that are claimed on it. -/
structure Placed (b : Bus) (h : HandleId) (held : Handle) : Prop where
  device : (b.device? held.device).isSome
  number : h.number < b.nextHandle
  selected : ∀ n, held.alternates.contains n = true → held.claimed.contains n = true

def Intact (b : Bus) : Prop := ∀ h held, b.handles.get? h = some held → b.Placed h held

/-- What is placed stays so while the devices stay and new numbers are larger ones. -/
theorem Placed.later {h : HandleId} {held : Handle} (hp : b.Placed h held)
    (hd : SameProfiles b c) (hn : b.nextHandle ≤ c.nextHandle) : c.Placed h held where
  device := by
    have hsome := congrArg Option.isSome (hd held.device)
    simp only [Option.isSome_map] at hsome
    rw [hsome]
    exact hp.device
  number := Nat.lt_of_lt_of_le hp.number hn
  selected := hp.selected

theorem Intact.kept (hb : b.Intact) (hh : c.handles = b.handles) (hd : SameProfiles b c)
    (hn : c.nextHandle = b.nextHandle) : c.Intact := by
  intro h held hget
  rw [hh] at hget
  exact (hb h held hget).later hd (Nat.le_of_eq hn.symm)

theorem Intact.of_core_eq (hb : b.Intact) (h : c.core = b.core) : c.Intact := by
  have hr := routine_of_core_eq h
  exact hb.kept hr.handles hr.profiles (sameOwners_of_core_eq h).nextHandle

/-- A change of one handle that keeps its device and selects nothing unclaimed. -/
theorem Intact.modifyHandle (hb : b.Intact) {h : HandleId} {f : Handle → Handle}
    (hc : c.handles = b.handles.modify h f) (hd : ∀ id, (b.device? id).isSome → (c.device? id).isSome)
    (hn : c.nextHandle = b.nextHandle) (hdevice : ∀ held, (f held).device = held.device)
    (hselected : ∀ held, b.handles.get? h = some held →
      (∀ n, held.alternates.contains n = true → held.claimed.contains n = true) →
      ∀ n, (f held).alternates.contains n = true → (f held).claimed.contains n = true) :
    c.Intact := by
  intro i held hi
  rw [hc] at hi
  by_cases heq : h = i
  · subst heq
    rw [Table.get?_modify_self, Option.map_eq_some_iff] at hi
    obtain ⟨old, hold, rfl⟩ := hi
    have hp := hb h old hold
    constructor
    · rw [hdevice]
      exact hd _ hp.device
    · rw [hn]
      exact hp.number
    · exact hselected old hold hp.selected
  · rw [Table.get?_modify_of_ne heq] at hi
    have hp := hb i held hi
    exact ⟨hd _ hp.device, hn ▸ hp.number, hp.selected⟩

section

variable (hb : b.Intact) (h : HandleId) (number : UInt8)

include hb

theorem intact_openDevice (id : DeviceId) : (after (openDevice id) b).Intact := by
  rw [openDevice_eq_serve]
  apply after_serve
  · exact fun c => hb.of_core_eq
  · intro a change ha
    obtain ⟨d, hd, ha⟩ := withDevice_eq_ok.1 ha
    cases ha
    intro i held hi
    by_cases heq : (⟨b.nextHandle⟩ : HandleId) = i
    · subst heq
      have hnew := Table.get?_insert_self.symm.trans hi
      cases hnew
      refine ⟨?_, Nat.lt_succ_self _, nofun⟩
      change (b.device? id).isSome
      rw [hd]
      rfl
    · have hold := (Table.get?_insert_of_ne heq).symm.trans hi
      exact (hb i held hold).later (fun _ => rfl) (Nat.le_succ _)

theorem intact_closeDevice : (after (closeDevice h) b).Intact := by
  rcases closeDevice_cases b h with ⟨e, -, hc⟩ | ⟨-, hs⟩
  · exact hb.of_core_eq hc
  · rw [hs]
    intro i held hi
    by_cases heq : h = i
    · subst heq
      have hnone := Table.get?_erase_self.symm.trans hi
      cases hnone
    · have hold := (Table.get?_erase_of_ne heq).symm.trans hi
      exact (hb i held hold).later (fun _ => rfl) (Nat.le_refl _)

theorem intact_setConfiguration (value : UInt8) : (after (setConfiguration h value) b).Intact := by
  rcases setConfiguration_cases h value b with ⟨e, -, hc⟩ | ⟨held, d, -, -, -, -, hs⟩
  · exact hb.of_core_eq hc
  · rw [hs]
    apply hb.modifyHandle (h := h) rfl
    · intro id hid
      change ((b.modifyDevice held.device _).device? id).isSome
      rw [device?_modifyDevice]
      split
      · simpa using hid
      · exact hid
    · rfl
    · exact fun _ => rfl
    · exact fun _ _ _ _ => nofun

theorem intact_claimInterface : (after (claimInterface h number) b).Intact := by
  rcases claimInterface_cases b h number with ⟨e, -, hc⟩ | ⟨held, -, -, -, hs⟩
  · exact hb.of_core_eq hc
  · rw [hs]
    apply hb.modifyHandle (h := h) rfl
    · exact fun _ hid => hid
    · rfl
    · exact fun _ => rfl
    · intro held _ hselected n hn
      exact Table.contains_insert_of_contains (hselected n hn)

theorem intact_releaseInterface : (after (releaseInterface h number) b).Intact := by
  rcases releaseInterface_cases b h number with ⟨e, -, hc⟩ | ⟨held, -, -, -, hs⟩
  · exact hb.of_core_eq hc
  · rw [hs]
    apply hb.modifyHandle (h := h) rfl
    · exact fun _ hid => hid
    · rfl
    · exact fun _ => rfl
    · intro held _ hselected n hn
      by_cases heq : number = n
      · subst heq
        have hgone : (held.alternates.erase number).contains number = false :=
          Table.contains_erase_self
        rw [hgone] at hn
        cases hn
      · have hold := (Table.contains_erase_of_ne heq).symm.trans hn
        exact (Table.contains_erase_of_ne heq).trans (hselected n hold)

/-- An alternate can only be selected on an interface that is claimed. -/
theorem intact_setAlternate (alternate : UInt8) :
    (after (setAlternate h number alternate) b).Intact := by
  rw [setAlternate_eq_serve]
  apply after_serve
  · exact fun c => hb.of_core_eq
  · intro a change ha
    obtain ⟨held, hheld, ha⟩ := withHandle_eq_ok.1 ha
    split at ha
    · cases ha
    next hclaimed =>
      obtain ⟨d, -, ha⟩ := withDevice_eq_ok.1 ha
      split at ha <;> cases ha
      apply hb.modifyHandle (h := h) rfl
      · exact fun _ hid => hid
      · rfl
      · exact fun _ => rfl
      · intro other hother hselected n hn
        cases hheld.symm.trans hother
        rcases Table.contains_insert hn with rfl | hn
        · simpa using hclaimed
        · exact hselected n hn

/-- What a call preserves. -/
theorem intact_act (op : Operation α) : (after op.act b).Intact := by
  cases hchanges : op.changesHandles with
  | false =>
    have howners : op.changesOwners = false := by
      unfold Operation.changesHandles at hchanges
      exact (Bool.or_eq_false_iff.1 hchanges).1
    have hr := routine_act op hchanges b
    exact hb.kept hr.handles hr.profiles (sameOwners_act op howners b).nextHandle
  | true =>
    cases op with
    | openDevice id => exact intact_openDevice hb id
    | closeDevice h => exact intact_closeDevice hb h
    | setConfiguration h value => exact intact_setConfiguration hb h value
    | claimInterface h number => exact intact_claimInterface hb h number
    | releaseInterface h number => exact intact_releaseInterface hb h number
    | setAlternate h number alternate => exact intact_setAlternate hb h number alternate
    | _ => cases hchanges

end

/-! Numbers of handles are given out in ascending order. -/

theorem nextHandle_act (op : Operation α) (b : Bus) :
    b.nextHandle ≤ (after op.act b).nextHandle := by
  obtain ⟨c, hchange, hcore⟩ := change_act op b
  have hnext : (after op.act b).nextHandle = c.nextHandle := congrArg (·.nextHandle) hcore
  rw [hnext]
  cases hchange with
  | opened id => exact Nat.le_succ _
  | _ => exact Nat.le_refl _

/-- A device is opened under the next number. -/
theorem nextHandle_openDevice {id : DeviceId} {h : HandleId} (ho : outcome (openDevice id) b = .ok h) :
    h.number = b.nextHandle ∧ (after (openDevice id) b).nextHandle = b.nextHandle + 1 := by
  rcases openDevice_cases b id with ⟨e, he, -⟩ | ⟨hok, hs⟩
  · rw [he] at ho
    cases ho
  · rw [hok] at ho
    cases ho
    rw [hs]
    exact ⟨rfl, rfl⟩

/-! Steps and runs. -/

theorem intact_next (hb : b.Intact) (act : Act) : (b.next act).Intact := by
  cases act with
  | hook h => cases h <;> exact hb.kept rfl (SameProfiles.refl b) rfl
  | call c =>
    rcases c.eq_name_or_operation (σ := Bus) with rfl | ⟨_, op, shown, -, hperform⟩
    · exact hb
    · rw [next, hperform, after_map]
      exact intact_act hb op

theorem intact_run (hb : b.Intact) (acts : List Act) : (b.run acts).Intact := by
  induction acts generalizing b with
  | nil => exact hb
  | cons act rest ih => exact ih (intact_next hb act)

theorem nextHandle_next (b : Bus) (act : Act) : b.nextHandle ≤ (b.next act).nextHandle := by
  cases act with
  | hook h => cases h <;> exact Nat.le_refl _
  | call c =>
    rcases c.eq_name_or_operation (σ := Bus) with rfl | ⟨_, op, shown, -, hperform⟩
    · exact Nat.le_refl _
    · rw [next, hperform, after_map]
      exact nextHandle_act op b

theorem nextHandle_run (b : Bus) (acts : List Act) : b.nextHandle ≤ (b.run acts).nextHandle := by
  induction acts generalizing b with
  | nil => exact Nat.le_refl _
  | cons act rest ih => exact Nat.le_trans (nextHandle_next b act) (ih (b.next act))

/-- No number that was given out in a run is one that comes next. -/
theorem number_lt_nextHandle {acts : List Act} {e : Sent Bus} (he : e ∈ history b acts)
    {id : DeviceId} (hcall : e.call = .openDevice id) {h : HandleId}
    (ho : outcome (openDevice id) e.met = .ok h) : h.number < (b.run acts).nextHandle := by
  induction acts generalizing b with
  | nil => cases he
  | cons act rest ih =>
    cases act with
    | hook k => exact ih he
    | call c =>
      rcases List.mem_cons.1 he with rfl | he
      · cases hcall
        obtain ⟨hnumber, hnext⟩ := nextHandle_openDevice ho
        have hrest := nextHandle_run (b.next (.call (.openDevice id))) rest
        have hstep : (b.next (.call (.openDevice id))).nextHandle = b.nextHandle + 1 := by
          rw [next, BackendCall.perform, after_bind_pure]
          exact hnext
        change h.number < ((b.next (.call (.openDevice id))).run rest).nextHandle
        simp only at hnumber
        omega
      · exact ih he

/-! Failures. -/

/-- Buses with the same core differ in counters and in the timeout that was noted down. -/
theorem eq_of_core_eq (h : c.core = b.core) :
    c = { b with calls := c.calls, lastTimeout := c.lastTimeout } := by
  obtain ⟨_, _, _, _, _, _⟩ := b
  obtain ⟨_, _, _, _, _, _⟩ := c
  simp only [core, Bus.mk.injEq] at h
  simp [h]

theorem core_of_error (op : Operation α) {e : UsbError} (h : outcome op.act b = .error e) :
    (after op.act b).core = b.core := by
  obtain ⟨m, timeout, answer, heq, -⟩ := served_act op
  rw [heq] at h ⊢
  rcases serve_cases m timeout answer b with ⟨_, -, hc⟩ | ⟨a, change, -, hok, -⟩
  · exact hc
  · rw [hok] at h
    cases h

theorem core_of_call_error (call : BackendCall) {e : UsbError}
    (h : outcome call.perform b = .error e) : (after call.perform b).core = b.core := by
  rcases call.eq_name_or_operation (σ := Bus) with rfl | ⟨_, op, shown, -, hperform⟩
  · cases h
  · rw [hperform] at h ⊢
    rw [outcome_map] at h
    rw [after_map]
    cases ho : outcome op.act b with
    | error e => exact core_of_error op ho
    | ok a =>
      rw [ho] at h
      cases h

theorem intact_ofDevices (specs : List Device) : (ofDevices specs).Intact := nofun

/-- In every run from the start, each open handle is for a device of the bus, has a number below
the next one, and has alternates selected on interfaces claimed on it only. A device that is opened
then gets a handle that is not in use and was never given out before. And a call that fails leaves
all handles and devices as they were. -/
theorem intact_and_failed_calls_change_nothing (specs : List Device) (acts : List Act) :
    let b := (ofDevices specs).run acts
    (∀ h held, b.handles.get? h = some held →
      held.device.number < b.devices.length ∧ h.number < b.nextHandle ∧
        ∀ n, held.alternates.contains n = true → held.claimed.contains n = true) ∧
    (∀ id h, outcome (openDevice id) b = .ok h →
      b.handles.get? h = none ∧
        ∀ e ∈ history (ofDevices specs) acts, ∀ i, e.call = .openDevice i →
          outcome (openDevice i) e.met ≠ .ok h) ∧
    ∀ (call : BackendCall) (err : UsbError), outcome call.perform b = .error err →
      let b' := after call.perform b
      b' = { b with calls := b'.calls, lastTimeout := b'.lastTimeout } := by
  intro b
  have hb : b.Intact := intact_run (intact_ofDevices specs) acts
  refine ⟨?placed, ?opened, ?failed⟩
  case placed =>
    intro h held hget
    have hp := hb h held hget
    have hdevice : held.device.number < b.devices.length := by
      simpa [device?] using hp.device
    exact ⟨hdevice, hp.number, hp.selected⟩
  case opened =>
    intro id h ho
    obtain ⟨hnumber, -⟩ := nextHandle_openDevice ho
    constructor
    · cases hget : b.handles.get? h with
      | none => rfl
      | some held =>
        have hlt := (hb h held hget).number
        omega
    · intro e he i hcall hok
      have hlt : h.number < b.nextHandle := number_lt_nextHandle he hcall hok
      omega
  case failed =>
    intro call err h
    exact eq_of_core_eq (core_of_call_error call h)

/-- Two handles are open and an alternate is selected on the second. A claim on it fails since the
interface is claimed on it already, and the next handle is the third. -/
theorem intact_and_failed_calls_change_nothing_claimedTwice :
    let acts : List Act :=
      [.call (.openDevice ⟨0⟩), .call (.openDevice ⟨0⟩), .call (.claimInterface ⟨2⟩ 0),
        .call (.setAlternate ⟨2⟩ 0 0)]
    let b := (ofDevices [Device.bulkLoopback 1 2]).run acts
    outcome (BackendCall.claimInterface ⟨2⟩ 0).perform b = .error busy ∧
      (after (BackendCall.claimInterface ⟨2⟩ 0).perform b).handles = b.handles ∧
      b.handles.get? ⟨3⟩ = none := by
  intro acts b
  have hclaimed : outcome (claimInterface ⟨2⟩ 0) b = .error busy := by decide +kernel
  have hbusy : outcome (BackendCall.claimInterface ⟨2⟩ 0).perform b = .error busy := by
    rw [BackendCall.perform, unitReply, outcome_bind_pure]
    exact congrArg (Except.map _) hclaimed
  have hthird : outcome (openDevice ⟨0⟩) b = .ok ⟨3⟩ := by decide +kernel
  have hall := intact_and_failed_calls_change_nothing [Device.bulkLoopback 1 2] acts
  have hsame : after (BackendCall.claimInterface ⟨2⟩ 0).perform b = _ :=
    hall.2.2 (.claimInterface ⟨2⟩ 0) busy hbusy
  constructor
  · exact hbusy
  constructor
  · rw [hsame]
  · exact (hall.2.1 ⟨0⟩ ⟨3⟩ hthird).1

end SerialBus.Loopback.Bus
