import SerialBus.Proofs.Loopback.Frames
import SerialBus.Proofs.Loopback.Pipes
import SerialBus.Proofs.Loopback.Working

/-! The halts of a loopback bus. An endpoint address is halted if the last call that concerned its
halt since the last reset of the device has set it. -/
namespace SerialBus.Loopback.Bus

open SerialBus.Action Session

/-- What a control request does to the halt of the endpoint: it sets it, ends it or leaves it. -/
def haltRequest? (setup : Setup) (endpoint : UInt8) : Option Bool :=
  if requestDirection setup.requestType = .toDevice ∧
      requestKind setup.requestType = .standard ∧
      requestRecipient setup.requestType = .endpoint ∧
      setup.value = endpointHalt ∧ setup.index.toUInt8 = endpoint then
    if setup.request = setFeatureRequest then some true
    else if setup.request = clearFeatureRequest then some false
    else none
  else none

/-- What a call has done to the halt of the endpoint of the device, nothing if it failed. -/
def haltChange? (id : DeviceId) (endpoint : UInt8) (e : Sent Bus) : Option Bool :=
  match e.call, result e with
  | .controlTransfer h setup _ _, .ok _ =>
    if e.met.isFor id h then haltRequest? setup endpoint else none
  | .clearHalt h address, .ok _ =>
    if e.met.isFor id h ∧ address = endpoint then some false else none
  | _, _ => none

section

variable {b c : Bus} {id : DeviceId} {endpoint : UInt8}

theorem isHalted_eq_map (b : Bus) (id : DeviceId) (endpoint : UInt8) :
    b.isHalted id endpoint =
      ((b.device? id).map DeviceState.stored).any fun s => s.2.contains endpoint := by
  rw [isHalted, Option.any_map]
  rfl

theorem isHalted_of_sameStored (h : SameStored b c) :
    c.isHalted id endpoint = b.isHalted id endpoint := by
  rw [isHalted_eq_map, isHalted_eq_map, h id]

theorem isHalted_of_core_eq (h : c.core = b.core) :
    c.isHalted id endpoint = b.isHalted id endpoint :=
  isHalted_of_sameStored (sameStored_of_core_eq h)

/-- What a change of one device does to the halts. -/
theorem isHalted_modifyDevice (i : DeviceId) (f : DeviceState → DeviceState) :
    (b.modifyDevice i f).isHalted id endpoint =
      if i = id then (b.device? id).any fun d => (f d).halted.contains endpoint
      else b.isHalted id endpoint := by
  rw [isHalted, device?_modifyDevice]
  split
  next heq =>
    subst heq
    exact Option.any_map
  next => rfl

theorem haltRequest?_of_other_kind {setup : Setup}
    (h : requestKind setup.requestType ≠ .standard) : haltRequest? setup endpoint = none :=
  if_neg fun hc => h hc.2.1

theorem haltRequest?_of_other_feature {setup : Setup}
    (h : ¬ (requestRecipient setup.requestType = .endpoint ∧ setup.value = endpointHalt)) :
    haltRequest? setup endpoint = none :=
  if_neg fun hc => h ⟨hc.2.2.1, hc.2.2.2.1⟩

theorem getD_haltRequest? {setup : Setup} (old : Bool)
    (hdirection : requestDirection setup.requestType = .toDevice)
    (hkind : requestKind setup.requestType = .standard)
    (hhalt : requestRecipient setup.requestType = .endpoint ∧ setup.value = endpointHalt) :
    (haltRequest? setup endpoint).getD old =
      if setup.index.toUInt8 = endpoint then
        if setup.request = setFeatureRequest then true
        else if setup.request = clearFeatureRequest then false
        else old
      else old := by
  unfold haltRequest?
  by_cases hlow : setup.index.toUInt8 = endpoint
  · rw [if_pos ⟨hdirection, hkind, hhalt.1, hhalt.2, hlow⟩, if_pos hlow]
    split
    · rfl
    · split <;> rfl
  · rw [if_neg fun hc => hlow hc.2.2.2.2, if_neg hlow]
    rfl

theorem contains_add (s : ByteSet) (low : UInt8) :
    (s.add low).contains endpoint = if low = endpoint then true else s.contains endpoint := by
  split
  next heq =>
    subst heq
    exact Table.contains_insert_self
  next hne => exact Table.contains_insert_of_ne hne

theorem contains_erase (s : ByteSet) (low : UInt8) :
    (s.erase low).contains endpoint = if low = endpoint then false else s.contains endpoint := by
  split
  next heq =>
    subst heq
    exact Table.contains_erase_self
  next hne => exact Table.contains_erase_of_ne hne

/-- A control request that a device takes changes the halt as the request says. -/
theorem halted_controlStore {d e : DeviceState} {setup : Setup} {data : List UInt8}
    (hdirection : requestDirection setup.requestType = .toDevice)
    (hstore : controlStore d setup data = .ok e) :
    e.halted.contains endpoint =
      (haltRequest? setup endpoint).getD (d.halted.contains endpoint) := by
  cases hkind : requestKind setup.requestType with
  | vendor =>
    have hnone : haltRequest? setup endpoint = none :=
      haltRequest?_of_other_kind (by simp [hkind])
    simp only [controlStore, hkind, Except.ok.injEq] at hstore
    rw [hnone, ← hstore]
    rfl
  | standard =>
    simp only [controlStore, hkind] at hstore
    by_cases hhalt : requestRecipient setup.requestType = .endpoint ∧ setup.value = endpointHalt
    · simp only [if_pos hhalt] at hstore
      rw [getD_haltRequest? _ hdirection hkind hhalt]
      by_cases hset : setup.request = setFeatureRequest
      · rw [if_pos hset] at hstore
        cases hstore
        simp only [if_pos hset]
        exact contains_add _ _
      · rw [if_neg hset] at hstore
        by_cases hclear : setup.request = clearFeatureRequest
        · rw [if_pos hclear] at hstore
          cases hstore
          simp only [if_neg hset, if_pos hclear]
          exact contains_erase _ _
        · rw [if_neg hclear] at hstore
          cases hstore
    · simp only [if_neg hhalt] at hstore
      rw [haltRequest?_of_other_feature hhalt]
      split at hstore
      · cases hstore
        rfl
      · split at hstore <;> cases hstore
        rfl
  | classSpecific => simp [controlStore, hkind] at hstore
  | reserved => simp [controlStore, hkind] at hstore

theorem haltChange?_of_error {e : Sent Bus} {err : UsbError} (h : result e = .error err) :
    haltChange? id endpoint e = none := by
  unfold haltChange?
  split
  case h_1 hok => simp [h] at hok
  case h_2 hok => simp [h] at hok
  case h_3 => rfl

theorem isFor_of_get? {h : HandleId} {held : Handle} (hget : b.handles.get? h = some held) :
    b.isFor id h = (held.device == id) := by
  rw [isFor, hget]
  rfl

theorem isHalted_controlTransfer (h : HandleId) (setup : Setup) (payload : Payload) (timeout : Nat)
    (b : Bus) :
    (after (controlTransfer h setup payload timeout) b).isHalted id endpoint =
      (haltChange? id endpoint ⟨.controlTransfer h setup payload timeout, b⟩).getD
        (b.isHalted id endpoint) := by
  have hresult : result ⟨.controlTransfer h setup payload timeout, b⟩ =
      (outcome (controlTransfer h setup payload timeout) b).map .transferred :=
    outcome_bind_pure _ _ b
  rcases controlTransfer_cases h setup payload timeout b with
    ⟨e, he, hc⟩ | ⟨held, d, hget, hd, ⟨length, data, hdirection, -, -, ho, hc⟩ |
      ⟨data, d', hdirection, -, hstore, ho, hs⟩⟩
  · rw [he] at hresult
    rw [haltChange?_of_error hresult, isHalted_of_core_eq hc]
    rfl
  · have hrequest : haltRequest? setup endpoint = none :=
      if_neg fun hr => by simp [hdirection] at hr
    rw [ho] at hresult
    have hchange : haltChange? id endpoint ⟨.controlTransfer h setup payload timeout, b⟩ = none := by
      simp [haltChange?, hresult, Except.map, hrequest]
    rw [hchange, isHalted_of_core_eq hc]
    rfl
  · rw [ho] at hresult
    have hchange : haltChange? id endpoint ⟨.controlTransfer h setup payload timeout, b⟩ =
        if held.device = id then haltRequest? setup endpoint else none := by
      simp [haltChange?, hresult, Except.map, isFor_of_get? hget]
    rw [hchange, hs, isHalted_modifyDevice]
    split
    next heq =>
      subst heq
      have hold : b.isHalted held.device endpoint = d.halted.contains endpoint := by
        rw [isHalted, hd]
        rfl
      have hdevice : (b.counted .ctrlTransfer (some timeout)).device? held.device = some d := hd
      rw [hold, hdevice]
      exact halted_controlStore hdirection hstore
    next => rfl

theorem isHalted_clearHalt (h : HandleId) (address : UInt8) (b : Bus) :
    (after (clearHalt h address) b).isHalted id endpoint =
      (haltChange? id endpoint ⟨.clearHalt h address, b⟩).getD (b.isHalted id endpoint) := by
  have hresult : result ⟨.clearHalt h address, b⟩ =
      (outcome (clearHalt h address) b).map fun _ => .unit := outcome_bind_pure _ _ b
  rcases clearHalt_cases h address b with ⟨e, he, hc⟩ | ⟨held, hget, ho, hs⟩
  · rw [he] at hresult
    rw [haltChange?_of_error hresult, isHalted_of_core_eq hc]
    rfl
  · rw [ho] at hresult
    have hchange : haltChange? id endpoint ⟨.clearHalt h address, b⟩ =
        if held.device = id ∧ address = endpoint then some false else none := by
      simp [haltChange?, hresult, Except.map, isFor_of_get? hget]
    rw [hchange, hs, isHalted_modifyDevice]
    by_cases hdevice : held.device = id
    · rw [if_pos hdevice]
      simp only [contains_erase, hdevice, true_and]
      by_cases haddress : address = endpoint
      · simp [haddress]
      · simp only [if_neg haddress]
        rfl
    · rw [if_neg hdevice, if_neg fun hc => hdevice hc.1]
      rfl

theorem isHalted_resetDevice (h : HandleId) (b : Bus) :
    (after (resetDevice h) b).isHalted id endpoint =
      if resets id ⟨.resetDevice h, b⟩ then false else b.isHalted id endpoint := by
  have hresult : result ⟨.resetDevice h, b⟩ = (outcome (resetDevice h) b).map fun _ => .unit :=
    outcome_bind_pure _ _ b
  rcases resetDevice_cases h b with ⟨e, he, hc⟩ | ⟨held, hget, ho, hs⟩
  · rw [he] at hresult
    rw [resets_of_error id hresult]
    exact isHalted_of_core_eq hc
  · rw [ho] at hresult
    have hresets : resets id ⟨.resetDevice h, b⟩ = (held.device == id) := by
      simp [resets, hresult, Except.map, isFor_of_get? hget]
    rw [hresets, hs, isHalted_modifyDevice]
    simp only [beq_iff_eq]
    split
    · cases (b.counted .resetDevice none).device? id <;> rfl
    · rfl

/-- One call ends the halt by a reset of the device, or changes it as it says, or leaves it. -/
theorem isHalted_after (c : BackendCall) (b : Bus) (id : DeviceId) (endpoint : UInt8) :
    (after c.perform b).isHalted id endpoint =
      if resets id ⟨c, b⟩ then false
      else (haltChange? id endpoint ⟨c, b⟩).getD (b.isHalted id endpoint) := by
  rcases c.eq_name_or_operation (σ := Bus) with rfl | ⟨_, op, shown, rfl, hperform⟩
  · rfl
  · rw [hperform, after_map]
    cases hs : op.stores with
    | false =>
      have hreset : resets id ⟨op.call, b⟩ = false := by
        cases op <;> first | rfl | cases hs
      have hchange : haltChange? id endpoint ⟨op.call, b⟩ = none := by
        cases op <;> first | rfl | cases hs
      rw [hreset, hchange, isHalted_of_sameStored (sameStored_act op hs b)]
      rfl
    | true =>
      cases op with
      | controlTransfer h setup payload timeout =>
        exact isHalted_controlTransfer h setup payload timeout b
      | resetDevice h => exact isHalted_resetDevice h b
      | clearHalt h address => exact isHalted_clearHalt h address b
      | _ => cases hs

theorem isHalted_hook (b : Bus) (h : Hook) :
    (b.next (.hook h)).isHalted id endpoint = b.isHalted id endpoint := by
  cases h <;> rfl

theorem isHalted_ofDevices (specs : List Device) :
    (ofDevices specs).isHalted id endpoint = false := by
  unfold isHalted device? ofDevices
  rw [List.getElem?_map]
  cases specs[id.number]? <;> rfl

/-- An endpoint that was not halted at first is halted if the last change since the last reset
halted it. -/
theorem isHalted_run (hb : b.isHalted id endpoint = false) (acts : List Act) :
    (b.run acts).isHalted id endpoint =
      (((sinceReset id (history b acts)).filterMap (haltChange? id endpoint)).getLast?.getD
        false) := by
  induction acts using List.reverseRecOn with
  | nil => simp [history, sinceReset, run, hb]
  | append_singleton acts act ih =>
    have hrun : b.run (acts ++ [act]) = (b.run acts).next act := by simp [run]
    rw [history_append, hrun]
    cases act with
    | hook h =>
      rw [isHalted_hook]
      simpa [history] using ih
    | call c =>
      change (after c.perform (b.run acts)).isHalted id endpoint =
        ((sinceReset id (history b acts ++ [⟨c, b.run acts⟩])).filterMap _).getLast?.getD false
      rw [isHalted_after, sinceReset_concat]
      by_cases hr : resets id ⟨c, b.run acts⟩ = true
      · rw [if_pos hr, if_pos hr]
        rfl
      · rw [if_neg hr, if_neg hr, ih, List.filterMap_append]
        cases hchange : haltChange? id endpoint ⟨c, b.run acts⟩ with
        | none => simp [hchange]
        | some halt => simp [hchange]

/-! What a halt does to transfers. -/

theorem moveData_ne_stalled (d : DeviceState) (payload : Payload) :
    moveData d endpoint payload ≠ .error stalled := by
  intro h
  cases payload with
  | send data =>
    simp only [moveData] at h
    split at h <;> cases h
  | receive length =>
    simp only [moveData] at h
    split at h
    · split at h <;> cases h
    · cases h

/-- A transfer of the type of its endpoint, on a claimed interface, stalls if the endpoint is halted
and not otherwise. What stalls moves nothing. -/
theorem stalls_iff_isHalted (hf : b.failures = ∅) {c : BackendCall} {t : DataTransfer}
    {e : EndpointDescriptor} {held : Handle} {d : DeviceState} (ht : c.dataTransfer? = some t)
    (hkind : c.transferType? = some e.transferType)
    (hget : b.handles.get? t.handle = some held) (hclaimed : held.claimed.contains t.number = true)
    (hd : b.device? held.device = some d)
    (he : d.endpoint? t.number ((held.alternates.get? t.number).getD 0) t.endpoint = some e) :
    (result ⟨c, b⟩ = .error stalled ↔ b.isHalted held.device t.endpoint = true) ∧
      (b.isHalted held.device t.endpoint = true → (after c.perform b).core = b.core) := by
  obtain ⟨m, kind, timeout, htype, hperform⟩ := perform_of_dataTransfer? ht
  cases hkind.symm.trans htype
  obtain ⟨ho, hs⟩ := dataTransfer_works hf hget hd m t.payload timeout hclaimed he rfl
  have hresult : result ⟨c, b⟩ = (outcome (dataTransfer m e.transferType t.handle t.endpoint
      t.number t.payload timeout) b).map .transferred := by
    rw [result, hperform, outcome_map]
  have hhalted : b.isHalted held.device t.endpoint = d.halted.contains t.endpoint := by
    rw [isHalted, hd]
    rfl
  rw [hresult, hperform, after_map, ho, hs, hhalted]
  cases d.halted.contains t.endpoint with
  | true => exact ⟨⟨fun _ => rfl, fun _ => rfl⟩, fun _ => core_counted b _ _⟩
  | false =>
    refine ⟨⟨fun hstall => ?_, fun h => absurd h Bool.false_ne_true⟩,
      fun h => absurd h Bool.false_ne_true⟩
    have hmove : moveData d t.endpoint t.payload ≠ .error stalled := moveData_ne_stalled d t.payload
    cases hr : moveData d t.endpoint t.payload with
    | error err =>
      simp only [hr] at hstall
      cases hstall
      exact absurd hr hmove
    | ok r =>
      simp only [hr] at hstall
      cases hstall

/-- A request to end a halt is taken, and does that only. -/
theorem controlStore_of_clears {d : DeviceState} {setup : Setup} (data : List UInt8)
    (h : haltRequest? setup endpoint = some false) :
    requestDirection setup.requestType = .toDevice ∧
      controlStore d setup data = .ok { d with halted := d.halted.erase endpoint } := by
  unfold haltRequest? at h
  split at h
  next hc =>
    obtain ⟨hdirection, hkind, hrecipient, hvalue, hlow⟩ := hc
    refine ⟨hdirection, ?_⟩
    split at h
    · cases h
    next hset =>
      split at h
      next hclear =>
        simp only [controlStore, hkind, if_neg hset, if_pos hclear]
        rw [if_pos ⟨hrecipient, hvalue⟩, hlow]
      next => cases h
  next => cases h

end

end SerialBus.Loopback.Bus
