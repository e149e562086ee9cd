import Mathlib.Data.List.DropRight
import SerialBus.Proofs.Loopback.Changes
import SerialBus.Proofs.Table
import SerialBus.Proofs.Watched

/-! The queues of a loopback bus. What a queue has accepted since the last reset of its device is
what it has delivered and then what it still holds, in this order. -/
namespace SerialBus.Loopback.Bus

open SerialBus.Action Session

/-- What can happen to a bus: a call of one of its operations, or a change from outside. -/
inductive Act
  | call (c : BackendCall)
  | hook (h : Hook)

def next (b : Bus) : Act → Bus
  | .call c => after c.perform b
  | .hook h => ((b.hook h).map Prod.snd).getD b

def run (b : Bus) (acts : List Act) : Bus := acts.foldl next b

/-- The calls of a run, each with the bus that it met. -/
def history (b : Bus) : List Act → List (Sent Bus)
  | [] => []
  | .call c :: rest => ⟨c, b⟩ :: history (b.next (.call c)) rest
  | .hook h :: rest => history (b.next (.hook h)) rest

/-- The bytes queued for an endpoint number of a device. -/
def queue (b : Bus) (id : DeviceId) (k : UInt8) : List UInt8 :=
  ((b.device? id).map fun d => d.queue k).getD []

def result (e : Sent Bus) : Except UsbError Reply := outcome e.call.perform e.met

/-- Whether a call comes through a handle of the device. -/
def isFor (id : DeviceId) (h : HandleId) (b : Bus) : Bool :=
  (b.handles.get? h).any fun held => held.device == id

/-- Whether a call is a data transfer with the endpoint number of the device: bits 0 to 3 of the
address are the number, and bit 7 is set if the endpoint is for data to the host. -/
def isOn (id : DeviceId) (k : UInt8) (direction : Direction) (e : Sent Bus) : Bool :=
  e.call.dataTransfer?.any fun t =>
    e.met.isFor id t.handle && t.endpoint &&& 0x0F == k &&
      (t.endpoint &&& 0x80 != 0) == direction.isToHost

/-- The bytes that a call has put into the queue, none if it failed. -/
def accepted (id : DeviceId) (k : UInt8) (e : Sent Bus) : List UInt8 :=
  match e.call.dataTransfer?, result e with
  | some ⟨_, _, _, .send data⟩, .ok _ => if isOn id k .toDevice e then data else []
  | _, _ => []

/-- The bytes that a call has returned from the queue, none if it failed. -/
def delivered (id : DeviceId) (k : UInt8) (e : Sent Bus) : List UInt8 :=
  match result e with
  | .ok (.transferred (.read data)) => if isOn id k .toHost e then data else []
  | _ => []

/-- Whether a call is a successful reset of the device. -/
def resets (id : DeviceId) (e : Sent Bus) : Bool :=
  match e.call, result e with
  | .resetDevice h, .ok _ => e.met.isFor id h
  | _, _ => false

/-- The part of a history behind the last reset of the device. -/
def sinceReset (id : DeviceId) (l : List (Sent Bus)) : List (Sent Bus) :=
  l.rtakeWhile fun e => !resets id e

/-- A reset of the device starts its part of the history anew. -/
theorem sinceReset_concat (id : DeviceId) (l : List (Sent Bus)) (e : Sent Bus) :
    sinceReset id (l ++ [e]) = if resets id e then [] else sinceReset id l ++ [e] := by
  unfold sinceReset
  cases hr : resets id e with
  | true => exact List.rtakeWhile_concat_neg _ _ _ (by simp [hr])
  | false => exact List.rtakeWhile_concat_pos _ _ _ (by simp [hr])

section

variable {α : Type} (id : DeviceId) (k : UInt8)

theorem queue_of_core_eq {b c : Bus} (h : b.core = c.core) : b.queue id k = c.queue id k := by
  have hd : b.core.devices = c.core.devices := by rw [h]
  change b.devices = c.devices at hd
  simp only [queue, device?, hd]

theorem queue_modifyDevice {b : Bus} {i : DeviceId} {f : DeviceState → DeviceState}
    (h : ∀ d, b.device? i = some d → i = id → (f d).queue k = d.queue k) :
    (b.modifyDevice i f).queue id k = b.queue id k := by
  simp only [queue, device?_modifyDevice]
  split
  case isTrue hi =>
    subst hi
    cases hd : b.device? i with
    | none => rfl
    | some d => simp [h d hd rfl]
  case isFalse hi => rfl

/-- A successful reset empties the queues of its device and leaves all others. -/
theorem queue_resetDevice (h : HandleId) (b : Bus) :
    (after (resetDevice h) b).queue id k =
      if resets id ⟨.resetDevice h, b⟩ then [] else b.queue id k := by
  have ho : result ⟨.resetDevice h, b⟩ = (outcome (resetDevice h) b).map fun _ => .unit :=
    outcome_bind_pure _ _ b
  rw [resetDevice_eq_serve] at ho ⊢
  rcases serve_cases .resetDevice none _ b with ⟨e, he, hc⟩ | ⟨a, change, ha, hok, hs⟩
  · rw [he] at ho
    rw [if_neg (by simp [resets, ho, Except.map])]
    exact queue_of_core_eq id k hc
  · obtain ⟨held, hh, ha⟩ := withHandle_eq_ok.1 ha
    cases ha
    rw [hok] at ho
    have hr : resets id ⟨.resetDevice h, b⟩ = (held.device == id) := by
      simp [resets, ho, Except.map, isFor, hh]
    rw [hs, hr]
    simp only [queue, device?_modifyDevice, beq_iff_eq]
    split
    case isTrue hi => cases hd : (b.counted .resetDevice none).device? id <;> rfl
    case isFalse hi => rfl

theorem isSome_dataTransfer? {op : Operation α} (h : op.movesData = true) :
    op.call.dataTransfer?.isSome := by
  cases op with
  | bulkTransfer | interruptTransfer | isochronousTransfer => rfl
  | _ => cases h

/-- A call that moves no data on a pipe and resets nothing leaves all queues. -/
theorem queue_after_quiet {c : BackendCall} {b : Bus} (ht : c.dataTransfer? = none)
    (hr : resets id ⟨c, b⟩ = false) : (after c.perform b).queue id k = b.queue id k := by
  obtain rfl | ⟨α, op, shown, hcall, hperform⟩ := c.eq_name_or_operation (σ := Bus)
  · rfl
  rw [hperform, after_map]
  by_cases hreset : ∃ h, c = .resetDevice h
  · obtain ⟨h, rfl⟩ := hreset
    cases op <;> cases hcall
    exact (queue_resetDevice id k h b).trans (if_neg (Bool.eq_false_iff.1 hr))
  · have hsame : Same (fun d => d.queue k) b (after op.act b) := by
      apply same_act
      intro d d' hturns
      cases hturns with
      | moved hmoves hmove =>
        have hmoved : op.call.dataTransfer?.isSome := isSome_dataTransfer? hmoves
        rw [hcall, ht] at hmoved
        cases hmoved
      | stored hstore =>
        obtain ⟨buffer, halted, hd⟩ := stored_of_controlStore hstore
        rw [hd]
        rfl
      | emptied h => exact absurd ⟨h, hcall.symm⟩ hreset
      | _ => rfl
    exact congrArg (fun q => q.getD []) (hsame id)

theorem queue_insert_self (d : DeviceState) (q : List UInt8) :
    DeviceState.queue { d with pipes := d.pipes.insert k q } k = q := by
  rw [DeviceState.queue, Table.get?_insert_self]
  rfl

theorem queue_insert_of_ne (d : DeviceState) (q : List UInt8) {j : UInt8} (h : j ≠ k) :
    DeviceState.queue { d with pipes := d.pipes.insert j q } k = d.queue k := by
  rw [DeviceState.queue, Table.get?_insert_of_ne h]
  rfl

/-- A move appends what was sent, or takes what it returns off the front. -/
theorem moveData_cases {d : DeviceState} {endpoint : UInt8} {payload : Payload}
    {r : Transferred × DeviceState} (h : moveData d endpoint payload = .ok r) :
    (∃ data, payload = .send data ∧ r.1 = .written data.length ∧
      endpointDirection endpoint = .toDevice ∧
      r.2.queue (endpointNumber endpoint) = d.queue (endpointNumber endpoint) ++ data) ∨
    ∃ length data, payload = .receive length ∧ r.1 = .read data ∧
      endpointDirection endpoint = .toHost ∧
      d.queue (endpointNumber endpoint) = data ++ r.2.queue (endpointNumber endpoint) := by
  cases payload with
  | send data =>
    simp only [moveData] at h
    split at h
    next hd =>
      cases h
      exact .inl ⟨data, rfl, rfl, hd, queue_insert_self _ d _⟩
    next hd => cases h
  | receive length =>
    simp only [moveData] at h
    split at h
    next hd =>
      split at h <;> cases h
      refine .inr ⟨length, _, rfl, rfl, hd, ?_⟩
      have hq := queue_insert_self (endpointNumber endpoint) d
        ((d.queue (endpointNumber endpoint)).drop length)
      exact (List.take_append_drop length _).symm.trans (congrArg _ hq.symm)
    next hd => cases h

/-- A move changes no other queue. -/
theorem queue_moveData_of_ne {d : DeviceState} {endpoint : UInt8} {payload : Payload}
    {r : Transferred × DeviceState} (h : moveData d endpoint payload = .ok r)
    (hk : endpointNumber endpoint ≠ k) : r.2.queue k = d.queue k := by
  cases payload with
  | send data =>
    simp only [moveData] at h
    split at h <;> cases h
    exact queue_insert_of_ne k d _ hk
  | receive length =>
    simp only [moveData] at h
    split at h
    · split at h <;> cases h
      exact queue_insert_of_ne k d _ hk
    · cases h

/-- The three kinds of data transfer differ in their name and their transfer type only. -/
theorem perform_of_dataTransfer? {c : BackendCall} {t : DataTransfer}
    (h : c.dataTransfer? = some t) :
    ∃ m kind timeout, c.transferType? = some kind ∧ (c.perform : Action Bus Reply) =
      Reply.transferred <$> dataTransfer m kind t.handle t.endpoint t.number t.payload timeout := by
  cases c with
  | bulkTransfer h endpoint number payload timeout =>
    cases h
    exact ⟨.bulkTransfer, .bulk, timeout, rfl, bind_pure_comp _ _⟩
  | interruptTransfer h endpoint number payload timeout =>
    cases h
    exact ⟨.interruptTransfer, .interrupt, timeout, rfl, bind_pure_comp _ _⟩
  | isochronousTransfer h endpoint number payload timeout =>
    cases h
    exact ⟨.isochronousTransfer, .isochronous, timeout, rfl, bind_pure_comp _ _⟩
  | _ => cases h

variable {e : Sent Bus}

/-- The bits of the address are what the transfer itself goes by. -/
theorem isOn_of_dataTransfer? {t : DataTransfer} (ht : e.call.dataTransfer? = some t)
    (direction : Direction) :
    isOn id k direction e = (e.met.isFor id t.handle && endpointNumber t.endpoint == k &&
      endpointDirection t.endpoint == direction) := by
  have hdirection : ((t.endpoint &&& 0x80 != 0) == direction.isToHost) =
      (endpointDirection t.endpoint == direction) := by
    unfold endpointDirection directionBit
    cases t.endpoint &&& 0x80 != 0 <;> cases direction <;> rfl
  rw [isOn, ht, Option.any_some, hdirection]
  rfl

theorem accepted_of_not_on (h : isOn id k .toDevice e = false) : accepted id k e = [] := by
  unfold accepted
  split
  · rw [if_neg (by simp [h])]
  · rfl

theorem delivered_of_not_on (h : isOn id k .toHost e = false) : delivered id k e = [] := by
  unfold delivered
  split
  · rw [if_neg (by simp [h])]
  · rfl

theorem accepted_of_error {err : UsbError} (h : result e = .error err) : accepted id k e = [] := by
  unfold accepted
  split
  case h_1 hok => simp [h] at hok
  case h_2 => rfl

theorem delivered_of_error {err : UsbError} (h : result e = .error err) :
    delivered id k e = [] := by
  unfold delivered
  split
  case h_1 hok => simp [h] at hok
  case h_2 => rfl

theorem resets_of_error {err : UsbError} (h : result e = .error err) : resets id e = false := by
  unfold resets
  split
  case h_1 hok => simp [h] at hok
  case h_2 => rfl

/-- One transfer: what was queued and what it accepts is what it delivers and what is queued then. -/
private theorem conserved_transfer {c : BackendCall} {t : DataTransfer} (b : Bus)
    (ht : c.dataTransfer? = some t) :
    b.queue id k ++ accepted id k ⟨c, b⟩ =
      delivered id k ⟨c, b⟩ ++ (after c.perform b).queue id k := by
  obtain ⟨m, kind, timeout, -, hp⟩ := perform_of_dataTransfer? ht
  have ho : result ⟨c, b⟩ = (outcome (dataTransfer m kind t.handle t.endpoint t.number t.payload
      timeout) b).map Reply.transferred := by
    rw [result, hp, outcome_map]
  rw [hp, after_map]
  rcases dataTransfer_cases m kind t.handle t.endpoint t.number t.payload timeout b with
    ⟨err, he, hc⟩ | ⟨held, d, r, hh, hd, hm, hok, hs⟩
  · have hr : result ⟨c, b⟩ = .error err := by rw [ho, he]; rfl
    rw [accepted_of_error id k hr, delivered_of_error id k hr, queue_of_core_eq id k hc,
      List.append_nil, List.nil_append]
  · rw [hok] at ho
    have hon : ∀ direction, isOn id k direction ⟨c, b⟩ = (held.device == id &&
        endpointNumber t.endpoint == k && endpointDirection t.endpoint == direction) :=
      fun direction => by
        rw [isOn_of_dataTransfer? id k (e := ⟨c, b⟩) ht direction]
        simp [isFor, hh]
    by_cases hi : held.device = id ∧ endpointNumber t.endpoint = k
    · obtain ⟨rfl, rfl⟩ := hi
      have hb : b.queue held.device (endpointNumber t.endpoint) =
          d.queue (endpointNumber t.endpoint) := by simp [queue, hd]
      have hq : (after (dataTransfer m kind t.handle t.endpoint t.number t.payload timeout)
          b).queue held.device (endpointNumber t.endpoint) =
            r.2.queue (endpointNumber t.endpoint) := by
        have hd' : (b.counted m (some timeout)).device? held.device = some d := hd
        simp [hs, queue, device?_modifyDevice, hd']
      rw [hb, hq]
      obtain ⟨h, endpoint, number, payload⟩ := t
      rcases moveData_cases hm with ⟨data, rfl, hw, hdir, hqueue⟩ | ⟨n, data, rfl, hw, hdir, hqueue⟩
      · have ha : accepted held.device (endpointNumber endpoint) ⟨c, b⟩ = data := by
          simp [accepted, ht, ho, Except.map, hon, hdir]
        have hdel : delivered held.device (endpointNumber endpoint) ⟨c, b⟩ = [] :=
          delivered_of_not_on _ _ (by simp [hon, hdir])
        rw [ha, hdel, List.nil_append]
        exact hqueue.symm
      · have ha : accepted held.device (endpointNumber endpoint) ⟨c, b⟩ = [] :=
          accepted_of_not_on _ _ (by simp [hon, hdir])
        have hdel : delivered held.device (endpointNumber endpoint) ⟨c, b⟩ = data := by
          simp [delivered, ho, hw, Except.map, hon, hdir]
        rw [ha, hdel, List.append_nil]
        exact hqueue
    · have hoff : ∀ direction, isOn id k direction ⟨c, b⟩ = false := fun direction => by
        rw [hon]
        simp only [Bool.and_eq_false_iff, beq_eq_false_iff_ne]
        by_cases hj : held.device = id
        · exact .inl (.inr fun hk => hi ⟨hj, hk⟩)
        · exact .inl (.inl hj)
      rw [accepted_of_not_on id k (hoff _), delivered_of_not_on id k (hoff _), List.append_nil,
        List.nil_append, hs]
      refine (queue_modifyDevice id k fun d' hd' hj => ?_).symm
      have hdd : d' = d := Option.some.inj (hd'.symm.trans hd)
      rw [hdd]
      exact queue_moveData_of_ne k hm fun hk => hi ⟨hj, hk⟩

/-- One call: what was queued and what it accepts is what it delivers and what is queued then. -/
theorem conserved (c : BackendCall) (b : Bus) (hr : resets id ⟨c, b⟩ = false) :
    b.queue id k ++ accepted id k ⟨c, b⟩ =
      delivered id k ⟨c, b⟩ ++ (after c.perform b).queue id k := by
  cases ht : c.dataTransfer? with
  | none =>
    have hoff : ∀ direction, isOn id k direction ⟨c, b⟩ = false := fun direction => by
      simp [isOn, ht]
    rw [accepted_of_not_on id k (hoff _), delivered_of_not_on id k (hoff _),
      queue_after_quiet id k ht hr, List.append_nil, List.nil_append]
  | some t => exact conserved_transfer id k b ht

end

@[simp] theorem history_append (b : Bus) (acts more : List Act) :
    history b (acts ++ more) = history b acts ++ history (b.run acts) more := by
  induction acts generalizing b with
  | nil => rfl
  | cons act rest ih =>
    cases act with
    | call c => simp [history, ih, run]
    | hook h => simp [history, ih, run]

theorem queue_hook (b : Bus) (h : Hook) (id : DeviceId) (k : UInt8) :
    (b.next (.hook h)).queue id k = b.queue id k := by
  cases h <;> rfl

theorem queue_after_reset {b : Bus} {c : BackendCall} {id : DeviceId} (k : UInt8)
    (hr : resets id ⟨c, b⟩ = true) : (after c.perform b).queue id k = [] := by
  cases c with
  | resetDevice h =>
    rw [BackendCall.perform, unitReply, after_bind_pure]
    exact (queue_resetDevice id k h b).trans (if_pos hr)
  | _ => cases hr

/-- A queue that was empty at first has accepted what it has delivered and still holds. -/
theorem accepted_eq_delivered (b : Bus) (acts : List Act) (id : DeviceId) (k : UInt8)
    (hb : b.queue id k = []) :
    (sinceReset id (history b acts)).flatMap (accepted id k) =
      (sinceReset id (history b acts)).flatMap (delivered id k) ++ (b.run acts).queue id k := by
  induction acts using List.reverseRecOn with
  | nil => simp [history, sinceReset, run, hb]
  | append_singleton acts act ih =>
    have hrun : b.run (acts ++ [act]) = (b.run acts).next act := by simp [run]
    rw [history_append, hrun]
    cases act with
    | hook h =>
      rw [queue_hook]
      simpa [history] using ih
    | call c =>
      change List.flatMap _ (sinceReset id (history b acts ++ [⟨c, b.run acts⟩])) =
        List.flatMap _ (sinceReset id (history b acts ++ [⟨c, b.run acts⟩])) ++
          (after c.perform (b.run acts)).queue id k
      rw [sinceReset_concat]
      by_cases hr : resets id ⟨c, b.run acts⟩ = true
      · rw [if_pos hr, queue_after_reset k hr]
        rfl
      · rw [if_neg hr]
        simp only [List.flatMap_append, List.flatMap_singleton]
        rw [ih, List.append_assoc, List.append_assoc,
          conserved id k c (b.run acts) (Bool.eq_false_iff.2 hr)]

theorem queue_ofDevices (specs : List Device) (id : DeviceId) (k : UInt8) :
    (ofDevices specs).queue id k = [] := by
  simp only [queue, device?, ofDevices, List.getElem?_map]
  cases specs[id.number]? <;> rfl

/-- Pipes are first in, first out: in every run each byte that a transfer has sent since the last
reset of the device was received in its turn or is still queued. Calls that fail move nothing, and
calls for other devices or other endpoint numbers leave the queue as it is. -/
theorem pipes_fifo (specs : List Device) (acts : List Act) (id : DeviceId) (k : UInt8) :
    (sinceReset id (history (ofDevices specs) acts)).flatMap (accepted id k) =
        (sinceReset id (history (ofDevices specs) acts)).flatMap (delivered id k) ++
          ((ofDevices specs).run acts).queue id k ∧
      ∀ e : Sent Bus,
        (∀ err, result e = .error err →
          accepted id k e = [] ∧ delivered id k e = [] ∧
            (after e.call.perform e.met).queue id k = e.met.queue id k) ∧
        ((∀ direction, isOn id k direction e = false) → resets id e = false →
          (after e.call.perform e.met).queue id k = e.met.queue id k) := by
  refine ⟨accepted_eq_delivered _ acts id k (queue_ofDevices specs id k), fun e => ⟨?_, ?_⟩⟩
  · intro err h
    have ha := accepted_of_error id k h
    have hd := delivered_of_error id k h
    have hc := conserved id k e.call e.met (resets_of_error id h)
    rw [ha, hd, List.append_nil, List.nil_append] at hc
    exact ⟨ha, hd, hc.symm⟩
  · intro hoff hr
    have hc := conserved id k e.call e.met hr
    rw [accepted_of_not_on id k (hoff _), delivered_of_not_on id k (hoff _), List.append_nil,
      List.nil_append] at hc
    exact hc.symm

/-- A device with a pair of bulk endpoints for each of two endpoint numbers. -/
def twoPairs : Device :=
  (Device.ofDescriptor {}).addConfiguration ((Configuration.ofDescriptor {}).addInterface {}
    [{ endpointAddress := 0x01 }, { endpointAddress := 0x81 },
      { endpointAddress := 0x02 }, { endpointAddress := 0x82 }])

/-- Bytes are sent on two endpoint numbers, a write is made to fail, and less is read on each number
than was sent: what is left is still queued, each byte on its own number. -/
theorem pipes_fifo_partial_read :
    let acts : List Act :=
      [.call (.openDevice ⟨0⟩), .call (.claimInterface ⟨1⟩ 0),
        .call (.bulkTransfer ⟨1⟩ 0x01 0 (.send [1, 2, 3]) 10),
        .call (.bulkTransfer ⟨1⟩ 0x02 0 (.send [7, 8]) 10), .hook (.failOn .bulkTransfer .io),
        .call (.bulkTransfer ⟨1⟩ 0x01 0 (.send [9]) 10), .hook .clearFailures,
        .call (.bulkTransfer ⟨1⟩ 0x82 0 (.receive 1) 10),
        .call (.bulkTransfer ⟨1⟩ 0x81 0 (.receive 2) 10)]
    [1, 2, 3] = [1, 2] ++ ((ofDevices [twoPairs]).run acts).queue ⟨0⟩ 1 ∧
      [7, 8] = [7] ++ ((ofDevices [twoPairs]).run acts).queue ⟨0⟩ 2 := by
  intro acts
  have ha : (sinceReset ⟨0⟩ (history (ofDevices [twoPairs]) acts)).flatMap (accepted ⟨0⟩ 1) =
        [1, 2, 3] ∧
      (sinceReset ⟨0⟩ (history (ofDevices [twoPairs]) acts)).flatMap (accepted ⟨0⟩ 2) =
        [7, 8] := by
    decide +kernel
  have hd : (sinceReset ⟨0⟩ (history (ofDevices [twoPairs]) acts)).flatMap (delivered ⟨0⟩ 1) =
        [1, 2] ∧
      (sinceReset ⟨0⟩ (history (ofDevices [twoPairs]) acts)).flatMap (delivered ⟨0⟩ 2) = [7] := by
    decide +kernel
  rw [← ha.1, ← ha.2, ← hd.1, ← hd.2]
  exact ⟨(pipes_fifo [twoPairs] acts ⟨0⟩ 1).1, (pipes_fifo [twoPairs] acts ⟨0⟩ 2).1⟩

end SerialBus.Loopback.Bus
