import SerialBus.Proofs.Requests.Counted

/-! How far a request can change a device, whatever its bus answers: by a handle that the bus has
opened, by an active configuration that it has reported and described, and by a claim that it has
granted. -/
namespace SerialBus.Requests

open SerialBus.Action Device Session

variable {σ α β : Type} [Backend σ]

/-! What calls have answered. -/

/-- One of the calls is the operation, and it has returned `x`. -/
def Answered (calls : List (Sent σ)) (op : Operation β) (x : β) : Prop :=
  ∃ s ∈ calls, s.call = op.call ∧ outcome (op.act : Action σ β) s.met = .ok x

theorem Answered.mono {calls more : List (Sent σ)} {op : Operation β} {x : β}
    (h : Answered calls op x) (hp : calls <+: more) : Answered more op x := by
  obtain ⟨s, hs, hcall, hx⟩ := h
  exact ⟨s, hp.subset hs, hcall, hx⟩

theorem answered_act (op : Operation β) {w : Watched σ} {x : β} (h : outcome op.act w = .ok x) :
    Answered (after op.act w).log op x := by
  rw [Watched.act_eq_watch] at h ⊢
  rw [Watched.outcome_watch] at h
  rw [Watched.after_watch]
  exact ⟨⟨op.call, w.inner⟩, List.mem_append_right _ (List.mem_singleton_self _), rfl, h⟩

/-- The active configuration is one that the bus has reported on the handle and described. -/
def Resolved (d : Device) (calls : List (Sent σ)) : Prop :=
  ∃ h index value descriptor, d.held.handle = some h ∧ d.held.activeConfig = some index ∧
    Answered calls (.configuration h) value ∧ value ≠ 0 ∧
    Answered calls (.configurationDescriptor d.id index) descriptor ∧
    descriptor.configurationValue = value

/-- How a device differs from what it was: by a handle that was opened, by an active configuration
that was looked up if `notes` allows it, and by a claim on the number in `claims`. -/
structure Frame (notes : Bool) (claims : Option UInt8) (a e : Attachment (Watched σ)) : Prop where
  log : a.bus.log <+: e.bus.log
  device : e.device = { a.device with held := { a.device.held with
    handle := e.device.held.handle
    activeConfig := e.device.held.activeConfig
    claimed := e.device.held.claimed } }
  handle : e.device.held.handle = a.device.held.handle ∨
    a.device.held.handle = none ∧ ∃ h, e.device.held.handle = some h ∧
      Answered e.bus.log (.openDevice a.device.id) h
  active : e.device.held.activeConfig = a.device.held.activeConfig ∨
    notes = true ∧ a.device.held.activeConfig = none ∧ Resolved e.device e.bus.log
  claimed : e.device.held.claimed = a.device.held.claimed ∨
    ∃ n, claims = some n ∧ a.device.held.claimed.contains n = false ∧
      e.device.held.claimed = a.device.held.claimed.insert n 1 ∧
      ∃ h, e.device.held.handle = some h ∧ Answered e.bus.log (.claimInterface h n) ()

section

variable {notes : Bool} {claims : Option UInt8} {a s e : Attachment (Watched σ)}

/-- Only the bus went on. -/
theorem Frame.of_device_eq (hd : e.device = a.device) (hl : a.bus.log <+: e.bus.log) :
    Frame notes claims a e where
  log := hl
  device := by rw [hd]
  handle := .inl (by rw [hd])
  active := .inl (by rw [hd])
  claimed := .inl (by rw [hd])

theorem Frame.refl (a : Attachment (Watched σ)) : Frame notes claims a a :=
  .of_device_eq rfl (List.prefix_refl _)

theorem Frame.id (h : Frame notes claims a e) : e.device.id = a.device.id := by
  rw [h.device]

/-- A handle that is open stays. -/
theorem Frame.handle_of_some (h : Frame notes claims a e) {i : HandleId}
    (hi : a.device.held.handle = some i) : e.device.held.handle = some i := by
  rcases h.handle with heq | ⟨hnone, -⟩
  · exact heq.trans hi
  · rw [hi] at hnone
    cases hnone

theorem Frame.trans (h : Frame notes claims a s) (g : Frame notes claims s e) :
    Frame notes claims a e where
  log := h.log.trans g.log
  device := by
    rw [g.device, h.device]
  handle := by
    rcases g.handle with hsame | ⟨hnone, i, hi, hopened⟩
    · rcases h.handle with hold | ⟨hnone, i, hi, hopened⟩
      · exact .inl (hsame.trans hold)
      · exact .inr ⟨hnone, i, hsame.trans hi, hopened.mono g.log⟩
    · rcases h.handle with hold | ⟨-, j, hj, -⟩
      · exact .inr ⟨hold.symm.trans hnone, i, hi, h.id ▸ hopened⟩
      · rw [hj] at hnone
        cases hnone
  active := by
    rcases g.active with hsame | ⟨hnotes, hnone, hresolved⟩
    · rcases h.active with hold | ⟨hnotes, hnone, i, index, value, d, hi, hindex, hv, h0, hd, hdv⟩
      · exact .inl (hsame.trans hold)
      · refine .inr ⟨hnotes, hnone, i, index, value, d, g.handle_of_some hi, hsame.trans hindex,
          hv.mono g.log, h0, ?_, hdv⟩
        rw [g.id]
        exact hd.mono g.log
    · rcases h.active with hold | ⟨-, -, i, index, value, d, hi, hindex, -⟩
      · exact .inr ⟨hnotes, hold.symm.trans hnone, hresolved⟩
      · rw [hindex] at hnone
        cases hnone
  claimed := by
    rcases g.claimed with hsame | ⟨n, hn, hfree, hclaimed, hanswer⟩
    · rcases h.claimed with hold | ⟨n, hn, hfree, hclaimed, i, hi, hanswer⟩
      · exact .inl (hsame.trans hold)
      · exact .inr ⟨n, hn, hfree, hsame.trans hclaimed, i, g.handle_of_some hi,
          hanswer.mono g.log⟩
    · rcases h.claimed with hold | ⟨m, hm, -, hclaimed', -⟩
      · rw [hold] at hfree hclaimed
        exact .inr ⟨n, hn, hfree, hclaimed, hanswer⟩
      · cases hn.symm.trans hm
        rw [hclaimed', Table.contains_insert_self] at hfree
        cases hfree

theorem Frame.notes_of_false (h : Frame false claims a e) : Frame notes claims a e :=
  { h with active := .inl (h.active.resolve_right fun hn => nomatch hn.1) }

/-- Claims count as before, and a new one counts once. -/
theorem Frame.counted (h : Frame notes claims a e) (ha : Counted a.device) : Counted e.device := by
  have hclaimed : e.device.held.claimed = a.device.held.claimed ∨
      ∃ n, e.device.held.claimed = a.device.held.claimed.insert n 1 := by
    rcases h.claimed with hsame | ⟨n, -, -, hinsert, -⟩
    · exact .inl hsame
    · exact .inr ⟨n, hinsert⟩
  rcases hclaimed with hsame | ⟨n, hinsert⟩
  · intro k level hk
    rw [hsame] at hk
    exact ha k level hk
  · intro k level hk
    rw [hinsert] at hk
    exact ha.insert (Nat.le_refl 1) k level hk

end

/-- Where each claim counts, devices differ by no more than the frame allows. -/
def frames (σ : Type) [Backend σ] (notes : Bool) (claims : Option UInt8) :
    Evolution (Attachment (Watched σ)) where
  rel a e := Counted a.device → Frame notes claims a e
  refl a _ := Frame.refl a
  trans h g ha := (h ha).trans (g ((h ha).counted ha))

/-! The steps that requests are made of. -/

section

variable (notes : Bool) (claims : Option UInt8)

theorem frames_onBus (d : Device) (op : Operation α) :
    Keeps ((frames σ notes claims).onBus d) op.act := by
  intro w _
  rw [Watched.act_eq_watch, Watched.after_watch]
  exact .of_device_eq rfl (List.prefix_append _ _)

theorem frames_query (op : Operation α) : Keeps (frames σ notes claims) (onBus op.act) :=
  Keeps.onBus fun d => frames_onBus notes claims d op

theorem plain_frames (a : Attachment (Watched σ)) : Plain .same ((frames σ notes claims).from a) :=
  plain_of_keeps (fun d {_} op _ _ _ => frames_onBus notes claims d op) a

theorem frames_openHandle :
    Keeps (frames σ notes claims) (openHandle : DeviceAction (Watched σ) HandleId) := by
  apply keeps_opening
  intro a hh _
  rw [after_openHandle_of_none hh]
  have hlog : a.bus.log <+:
      (after (Operation.openDevice a.device.id).act a.bus : Watched σ).log := by
    rw [Watched.act_eq_watch, Watched.after_watch]
    exact List.prefix_append _ _
  cases ho : outcome (Backend.openDevice a.device.id : Action (Watched σ) HandleId) a.bus with
  | error e => exact .of_device_eq rfl hlog
  | ok h =>
    have hanswer := answered_act (.openDevice a.device.id) ho
    exact ⟨hlog, rfl, .inr ⟨hh, h, rfl, hanswer⟩, .inl rfl, .inl rfl⟩

theorem frames_interfaceNumber (target : InterfaceTarget) :
    Keeps (frames σ notes claims) (interfaceNumber target) :=
  keeps_of_simulates fun a => (plain_frames notes claims a).interfaceNumber target

theorem frames_configurationByValue (value : UInt8) :
    Keeps (frames σ notes claims) (configurationByValue value) :=
  keeps_of_simulates fun a => (plain_frames notes claims a).configurationByValue value

theorem frames_reported (h : HandleId) : Keeps (frames σ notes claims) (reported h) := by
  apply (frames_query notes claims (.configuration h)).bind
  intro value
  apply keeps_ite
  · exact keeps_liftResult (.error .configurationNotSet)
  · apply (frames_configurationByValue notes claims value).bind
    intro found
    cases found with
    | none => exact keeps_liftResult (.error .configurationNotSet)
    | some p => exact keeps_pure p

theorem frames_claimOnce (h : HandleId) (number : UInt8) :
    Keeps (frames σ notes claims) (claimOnce h number) := by
  apply keeps_getHeld.bind
  intro held
  apply keeps_ite
  · exact frames_query notes claims (.claimInterface h number)
  · exact keeps_pure _

end

/-! Configurations that are looked up. -/

omit [Backend σ] in
/-- What a search by position has found is what it has read last. -/
theorem found_ofIndex {count start : Nat} {load : Nat → Action σ α} {test : α → Bool} {s : σ} {x : α}
    (h : outcome ((Cursor.ofIndex count load).find test start) s = .ok (some x)) :
    ∃ i t, outcome (load i) t = .ok x ∧ test x = true ∧
      after ((Cursor.ofIndex count load).find test start) s = after (load i) t := by
  unfold Cursor.find at h ⊢
  generalize (Cursor.ofIndex count load).bound start = fuel at h ⊢
  induction fuel generalizing start s with
  | zero => cases h
  | succ fuel ih =>
    by_cases hlt : start < count
    · have hstep : (Cursor.ofIndex count load).findUpTo test (fuel + 1) start =
          attempt (load start) >>= fun r => match r with
            | .error e => throw e
            | .ok a => if test a then pure (some a)
              else (Cursor.ofIndex count load).findUpTo test fuel (start + 1) := by
        rw [Cursor.findUpTo]
        simp only [Cursor.ofIndex, if_pos hlt, bind_assoc, pure_bind]
        apply bind_congr
        intro r
        cases r <;> rfl
      rw [hstep, outcome_bind_ok _ (outcome_attempt _ _), after_attempt] at h
      rw [hstep, after_bind_ok _ (outcome_attempt _ _), after_attempt]
      cases hread : outcome (load start) s with
      | error e =>
        rw [hread] at h
        cases h
      | ok a =>
        rw [hread] at h
        simp only at h ⊢
        by_cases htest : test a = true
        · rw [if_pos htest] at h
          rw [if_pos htest]
          cases h
          exact ⟨start, s, hread, htest, rfl⟩
        · rw [if_neg htest] at h
          rw [if_neg htest]
          exact ih h
    · have hstep : (Cursor.ofIndex count load).findUpTo test (fuel + 1) start = pure none := by
        rw [Cursor.findUpTo]
        simp only [Cursor.ofIndex, if_neg hlt, pure_bind]
      rw [hstep] at h
      cases h

theorem answered_configurationByValue {value index : UInt8} {descriptor : ConfigurationDescriptor}
    {a : Attachment (Watched σ)}
    (h : outcome (configurationByValue value) a = .ok (some (index, descriptor))) :
    Answered (after (configurationByValue value) a).bus.log
        (.configurationDescriptor a.device.id index) descriptor ∧
      descriptor.configurationValue = value := by
  unfold configurationByValue at h ⊢
  rw [outcome_congr (getDevice_bind _ _), outcome_onBus] at h
  rw [after_congr (getDevice_bind _ _), after_onBus]
  obtain ⟨i, t, hload, htest, hafter⟩ := found_ofIndex h
  rw [outcome_bind_pure] at hload
  have hread : ∃ d, outcome (Operation.configurationDescriptor a.device.id i.toUInt8).act t =
      .ok d ∧ (i.toUInt8, d) = (index, descriptor) := by
    cases hr : outcome (Operation.configurationDescriptor a.device.id i.toUInt8).act t with
    | error e =>
      rw [Operation.act] at hr
      rw [hr] at hload
      cases hload
    | ok d =>
      rw [Operation.act] at hr
      rw [hr] at hload
      exact ⟨d, rfl, Except.ok.inj hload⟩
  obtain ⟨d, hd, heq⟩ := hread
  cases heq
  constructor
  · have hanswer := answered_act _ hd
    unfold configurationCursor
    rw [hafter, after_bind_pure]
    exact hanswer
  · simpa using htest

/-- What is reported was answered and described by the bus. -/
theorem answered_reported {h : HandleId} {index : UInt8} {descriptor : ConfigurationDescriptor}
    {a : Attachment (Watched σ)} (ha : Counted a.device)
    (ho : outcome (reported h) a = .ok (index, descriptor)) :
    ∃ value, Answered (after (reported h) a).bus.log (.configuration h) value ∧ value ≠ 0 ∧
      Answered (after (reported h) a).bus.log (.configurationDescriptor a.device.id index)
        descriptor ∧
      descriptor.configurationValue = value := by
  unfold reported at ho ⊢
  obtain ⟨value, hvalue, ho⟩ := outcome_bind_eq_ok.1 ho
  rw [after_bind_ok _ hvalue]
  rw [after_onBus] at ho ⊢
  rw [outcome_onBus] at hvalue
  have hanswer := answered_act (.configuration h) hvalue
  by_cases h0 : value = 0
  · rw [if_pos h0] at ho
    cases ho
  rw [if_neg h0] at ho ⊢
  obtain ⟨found, hfound, ho⟩ := outcome_bind_eq_ok.1 ho
  rw [after_bind_ok _ hfound]
  cases found with
  | none => cases ho
  | some p =>
    cases ho
    obtain ⟨hdescribed, hwanted⟩ := answered_configurationByValue hfound
    have hlog := (frames_configurationByValue false none value
      ⟨a.device, after (Backend.configuration h) a.bus⟩ ha).log
    exact ⟨value, hanswer.mono hlog, h0, hdescribed, hwanted⟩

/-- Where no configuration is known to be active, the one that is looked up is noted. -/
theorem frame_readBack {claims : Option UInt8} {a : Attachment (Watched σ)} (ha : Counted a.device)
    (hnone : a.device.held.activeConfig = none) : Frame true claims a (after readBack a) := by
  rw [readBack_eq]
  have hopening := frames_openHandle false claims a ha
  cases ho : outcome openHandle a with
  | error e =>
    rw [after_bind, ho]
    exact hopening.notes_of_false
  | ok h =>
    rw [after_bind_ok _ ho]
    have hreading := frames_reported false claims h _ (hopening.counted ha)
    have hreported := hopening.trans hreading
    cases hr : outcome (reported h) (after openHandle a) with
    | error e =>
      rw [after_bind, hr]
      exact hreported.notes_of_false
    | ok found =>
      obtain ⟨index, descriptor⟩ := found
      rw [after_bind_ok _ hr]
      obtain ⟨value, hvalue, h0, hdescribed, hwanted⟩ := answered_reported (hopening.counted ha) hr
      have hhandle := hreading.handle_of_some (handle_after_openHandle ho)
      have hunknown : (after (reported h) (after openHandle a)).device.held.activeConfig = none := by
        have hsame := hreported.active.resolve_right fun hn => nomatch hn.1
        exact hsame.trans hnone
      rw [← hreading.id] at hdescribed
      generalize after (reported h) (after openHandle a) = t at *
      have hnoting : Frame true claims t (after (noteActive index) t) := by
        refine ⟨List.prefix_refl _, rfl, .inl rfl, .inr ⟨rfl, hunknown, ?_⟩, .inl rfl⟩
        exact ⟨h, index, value, descriptor, hhandle, rfl, hvalue, h0, hdescribed, hwanted⟩
      exact hreported.notes_of_false.trans hnoting

section

variable (notes : Bool) (claims : Option UInt8)

/-- A configuration that is known to be active is only read. -/
theorem frames_activeConfiguration_of_some {a : Attachment (Watched σ)} {index : UInt8}
    (ha : Counted a.device) (hi : a.device.held.activeConfig = some index) :
    Frame notes claims a (after activeConfiguration a) := by
  have hread : Keeps (frames σ notes claims) (getDevice >>= fun d =>
      onBus (Backend.configurationDescriptor d.id index) >>= fun descriptor =>
        pure (index, descriptor) : DeviceAction (Watched σ) _) := by
    apply keeps_getDevice.bind
    intro d
    apply (frames_query notes claims (.configurationDescriptor d.id index)).bind
    intro descriptor
    exact keeps_pure _
  rw [activeConfiguration_eq, after_congr (getHeld_bind _ _), hi]
  exact hread a ha

theorem frames_activeConfiguration :
    Keeps (frames σ true claims) (activeConfiguration : DeviceAction (Watched σ) _) := by
  intro a ha
  cases hi : a.device.held.activeConfig with
  | some index => exact frames_activeConfiguration_of_some true claims ha hi
  | none =>
    rw [activeConfiguration_eq, after_congr (getHeld_bind _ _), hi]
    exact frame_readBack ha hi

theorem frames_findInterface (target : InterfaceTarget) :
    Keeps (frames σ true claims) (findInterface target) := by
  rw [findInterface_eq]
  apply (frames_activeConfiguration claims).bind
  intro found
  exact keeps_of_simulates fun a => (plain_frames true claims a).findTarget target _ _

end

end SerialBus.Requests
