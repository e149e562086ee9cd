import SerialBus.Proofs.Descriptor.Strings
import SerialBus.Proofs.Device.Memory

/-! Strings and language identifiers that are read from a device where nothing is made to fail:
which requests are sent for them, what is made of the replies, and that only the handle is changed
by it. -/
namespace SerialBus

open SerialBus.Action Custody Session
open Loopback (Bus)
open StringDescriptor (Spells encodeLangids maxLength maxWords typeCode)

/-- The setup of a control transfer. -/
def Session.BackendCall.request? : BackendCall → Option Setup
  | .controlTransfer _ setup _ _ => some setup
  | _ => none

/-- The control requests that have reached a backend. -/
def Watched.requests {σ : Type} (w : Watched σ) : List Setup :=
  w.log.filterMap fun s => s.call.request?

/-- The control requests that a use sends to the bus. -/
def Custody.Use.requests (u : Use) (a : Attachment Bus) : List Setup :=
  (u.calls a).filterMap fun s => s.call.request?

/-- A control transfer that reads changes nothing but what is counted. -/
theorem Loopback.Bus.core_controlTransfer_toHost {setup : Setup}
    (hdirection : requestDirection setup.requestType = .toHost) (h : HandleId) (payload : Payload)
    (timeout : Nat) (b : Bus) :
    (after (Bus.controlTransfer h setup payload timeout) b).core = b.core := by
  rcases Bus.controlTransfer_cases h setup payload timeout b with
    ⟨e, -, hs⟩ | ⟨held, d, -, -, ⟨length, reply, -, -, -, -, hs⟩ | ⟨sent, e, hdevice, -⟩⟩
  · exact hs
  · exact hs
  · cases hdirection.symm.trans hdevice

namespace Device

/-! The requests that are sent. -/

section

variable {σ : Type} [Backend σ] {a : Attachment (Watched σ)}

theorem requests_openHandle : (after openHandle a).bus.requests = a.bus.requests := by
  cases hh : a.device.held.handle with
  | some h => rw [(eq_ok_iff.1 (openHandle_of_some hh)).2]
  | none =>
    have hopen : (after (Backend.openDevice a.device.id : Action (Watched σ) HandleId)
        a.bus).requests = a.bus.requests := by
      change (after (Watched.watch _ _) a.bus).requests = _
      rw [Watched.after_watch, Watched.requests, List.filterMap_append]
      exact List.append_nil _
    rw [after_openHandle_of_none hh]
    cases outcome (Backend.openDevice a.device.id : Action (Watched σ) HandleId) a.bus with
    | ok h => exact hopen
    | error e => exact hopen

/-- A control transfer on a handle that can be opened sends its request, and no other one. -/
theorem requests_controlTransfer {h : HandleId} (hopen : outcome openHandle a = .ok h)
    {setup : Setup} {data : ControlData} {payload : Payload}
    (hpayload : data.payload (requestDirection setup.requestType) = .ok payload)
    (timeout : Option Nat) :
    (after (controlTransfer setup data timeout) a).bus.requests = a.bus.requests ++ [setup] := by
  have hwhole : controlTransfer setup data timeout a =
      onBus (Backend.controlTransfer h setup payload
        (timeout.getD (after openHandle a).device.defaultTimeout)) (after openHandle a) := by
    unfold controlTransfer
    rw [hpayload]
    exact bind_eq_of_ok _ (eq_ok_iff.2 ⟨hopen, rfl⟩)
  rw [after_congr hwhole, after_onBus]
  change (after (Watched.watch _ _) (after openHandle a).bus).requests = _
  rw [Watched.after_watch, Watched.requests, List.filterMap_append]
  exact congrArg (· ++ [setup]) requests_openHandle

end

/-- The setup of a request for a string descriptor. -/
def stringRequest (index : UInt8) (langid : UInt16) : Setup where
  requestType := requestType .toHost .standard .device
  request := 0x06
  value := descriptorSelector typeCode index
  index := langid

theorem payload_stringRequest (index : UInt8) (langid : UInt16) :
    (ControlData.length maxLength).payload
      (requestDirection (stringRequest index langid).requestType) =
        .ok (.receive maxLength) := by
  have hdirection : requestDirection (stringRequest index langid).requestType = .toHost :=
    requestDirection_requestType _ _ _
  rw [hdirection]
  rfl

/-- A loopback device finds the index and the type where they were put. -/
theorem standardReply_stringRequest (state : Loopback.DeviceState) (held : Loopback.Handle)
    (index : UInt8) (langid : UInt16) :
    Bus.standardReply state held (stringRequest index langid) =
      Bus.stringReply state index.toNat := by
  have hselector : (stringRequest index langid).value =
      StringDescriptor.word index typeCode := rfl
  have hbyte : index.toNat < 2 ^ 8 := index.toNat_lt
  have hlow : ((stringRequest index langid).value &&& 0xFF).toNat = index.toNat := by
    rw [hselector, UInt16.toNat_and, StringDescriptor.toNat_word]
    change (index.toNat + 256 * 3) &&& (2 ^ 8 - 1) = index.toNat
    rw [Nat.and_two_pow_sub_one_eq_mod]
    omega
  have hhigh : ((stringRequest index langid).value >>> 8).toUInt8 = typeCode := by
    rw [hselector, StringDescriptor.toUInt8_word_shiftRight]
  have hrequest : (stringRequest index langid).request ≠ Bus.getStatusRequest :=
    show (0x06 : UInt8) ≠ 0x00 by decide
  rw [Bus.standardReply, hlow, if_neg hrequest, if_pos ⟨rfl, hhigh⟩]

/-! What is made of the replies. -/

/-- The language identifiers in a reply to the request for them. -/
def langidsOf (raw : List UInt8) : Except UsbError (List UInt16) :=
  if holdsNoLangid raw then .ok []
  else (StringDescriptor.decodeLangids raw).mapError malformedString

/-- The text in a reply to the request for it. -/
def textOf (raw : List UInt8) : Except UsbError (Option String) :=
  ((StringDescriptor.decode raw).mapError malformedString).map fun text =>
    some (String.ofList text)

section

variable {σ : Type}

theorem ofDescriptorResult_eq {α : Type} (r : Except DescriptorError α) :
    (ofDescriptorResult r : DeviceAction σ α) = liftResult (r.mapError malformedString) := by
  cases r <;> rfl

variable [Backend σ]

theorem langids_eq : (langids : DeviceAction σ (List UInt16)) =
    stringDescriptor 0 0 >>= fun raw => liftResult (langidsOf raw) := by
  refine congrArg (stringDescriptor 0 0 >>= ·) (funext fun raw => ?_)
  rw [langidsOf, ofDescriptorResult_eq]
  split <;> rfl

theorem string_eq {index : UInt8} (hindex : index ≠ 0) (langid : UInt16) :
    (string index (some langid) : DeviceAction σ (Option String)) =
      stringDescriptor index langid >>= fun raw => liftResult (textOf raw) := by
  rw [string, if_neg hindex]
  change (stringDescriptor index langid >>= fun raw => _) = _
  refine congrArg (stringDescriptor index langid >>= ·) (funext fun raw => ?_)
  rw [textOf, ofDescriptorResult_eq]
  cases (StringDescriptor.decode raw).mapError malformedString <;> rfl

/-- Without a language the first one of the device is taken. -/
theorem string_of_langids {index : UInt8} (hindex : index ≠ 0) {a : Attachment σ} {first : UInt16}
    {rest : List UInt16} (h : outcome langids a = .ok (first :: rest)) :
    string index none a = string index (some first) (after langids a) := by
  rw [string, if_neg hindex]
  change (langids >>= fun ids => _) a = _
  rw [bind_eq_of_ok _ (eq_ok_iff.2 ⟨h, rfl⟩), string, if_neg hindex]
  rfl

end

theorem holdsNoLangid_iff (raw : List UInt8) :
    holdsNoLangid raw = true ↔
      raw.length < 4 ∨ (raw.getD 0 0).toNat < 4 ∨ (raw.getD 0 0).toNat % 2 = 1 := by
  match raw with
  | [] => simp [holdsNoLangid]
  | length :: rest =>
    have hodd : (length &&& 1 != 0) = true ↔ length.toNat % 2 = 1 := by
      rw [bne_iff_ne, ne_eq, ← UInt8.toNat_inj, UInt8.toNat_and]
      change ¬ length.toNat &&& 1 = 0 ↔ _
      rw [Nat.and_one_is_mod]
      omega
    have hshort : length < 4 ↔ length.toNat < 4 := UInt8.lt_iff_toNat_lt
    simp only [holdsNoLangid, List.head?_cons, Option.all_some, Bool.or_eq_true, decide_eq_true_eq,
      hodd, hshort, List.getD_cons_zero]

theorem langidsOf_of_holdsSome {raw : List UInt8} (h : ¬ holdsNoLangid raw = true) :
    langidsOf raw = ((StringDescriptor.payload raw).map StringDescriptor.wordsOf).mapError
      malformedString := by
  rw [langidsOf, if_neg h]
  rfl

/-- A reply that may hold identifiers is refused for its type or its length, or read. -/
theorem langidsOf_cases {raw : List UInt8} (hraw : 4 ≤ raw.length)
    (hmin : 4 ≤ (raw.getD 0 0).toNat) (heven : (raw.getD 0 0).toNat % 2 = 0) :
    let length := (raw.getD 0 0).toNat
    let type := raw.getD 1 0
    (type ≠ 3 → langidsOf raw = .error (malformedString (.unexpectedType 3 type))) ∧
    (type = 3 → raw.length < length →
      langidsOf raw = .error (malformedString (.malformed length raw.length))) ∧
    (type = 3 → length ≤ raw.length → ∃ words, langidsOf raw = .ok words ∧
      Spells raw ((length - 2) / 2) words) := by
  have hholds : ¬ holdsNoLangid raw = true := by
    rw [holdsNoLangid_iff]
    omega
  rw [langidsOf_of_holdsSome hholds]
  match raw with
  | [] => exact absurd hraw (by decide)
  | [_] => exact absurd hraw (show ¬ 4 ≤ 1 by decide)
  | length :: type :: rest =>
    replace hmin : 2 ≤ length.toNat := Nat.le_trans (by decide) hmin
    refine ⟨fun htype => ?_, fun htype hshort => ?_, fun htype hlong => ?_⟩
    · have hpayload : StringDescriptor.payload (length :: type :: rest) =
          .error (.unexpectedType 3 type) := StringDescriptor.payload_of_type_ne htype
      rw [hpayload]
      rfl
    · obtain rfl : type = typeCode := htype
      rw [StringDescriptor.payload_of_length (.inr hshort)]
      rfl
    · obtain rfl : type = typeCode := htype
      have hpayload := StringDescriptor.payload_of_header hmin hlong
      rw [hpayload]
      exact ⟨_, rfl, StringDescriptor.spells_wordsOf hpayload⟩

/-- The length byte leaves no room for more. -/
theorem length_langidsOf {raw : List UInt8} {words : List UInt16} (h : langidsOf raw = .ok words) :
    words.length ≤ 126 := by
  by_cases hholds : holdsNoLangid raw = true
  · rw [langidsOf, if_pos hholds] at h
    cases h
    exact Nat.zero_le _
  · rw [langidsOf_of_holdsSome hholds] at h
    cases hpayload : StringDescriptor.payload raw with
    | error e =>
      rw [hpayload] at h
      cases h
    | ok body =>
      rw [hpayload] at h
      cases h
      have hbyte : (raw.getD 0 0).toNat < 2 ^ 8 := (raw.getD 0 0).toNat_lt
      rw [(StringDescriptor.spells_wordsOf hpayload).length_eq]
      omega

/-- A table is not longer than what is asked for. -/
theorem take_encodeLangids (words : List UInt16) :
    (encodeLangids words).take 255 = encodeLangids words := by
  refine List.take_of_length_le ?_
  have hmin : min maxWords words.length ≤ 126 := Nat.min_le_left _ _
  rw [StringDescriptor.length_encodeLangids]
  omega

/-- A table with identifiers is read as those that fit, and one without any as empty. -/
theorem langidsOf_encodeLangids (words : List UInt16) :
    langidsOf ((encodeLangids words).take 255) = .ok (words.take 126) := by
  rw [take_encodeLangids]
  cases words with
  | nil => rfl
  | cons first rest =>
    have hlength := StringDescriptor.length_encodeLangids (first :: rest)
    have hhead := Option.some.inj (StringDescriptor.head?_encodeLangids (first :: rest))
    have hmin : 1 ≤ min maxWords (first :: rest).length :=
      Nat.le_min.2 ⟨by decide, Nat.le_add_left _ _⟩
    have hholds : ¬ holdsNoLangid (encodeLangids (first :: rest)) = true := by
      rw [holdsNoLangid_iff]
      change ((encodeLangids (first :: rest)).getD 0 0).toNat = _ at hhead
      omega
    rw [langidsOf, if_neg hholds, StringDescriptor.decodeLangids_encodeLangids]
    rfl

/-- A text is read as the beginning that fits, unless it was cut through a pair. -/
theorem textOf_encode (text : List Char) :
    textOf ((StringDescriptor.encode text).take 255) =
      if Text.Utf16.splitsPair 126 text then .error (malformedString .invalidUtf16)
      else .ok (some (String.ofList (Text.Utf16.fitting 126 text))) := by
  rw [StringDescriptor.encode, take_encodeLangids, ← StringDescriptor.encode, textOf,
    StringDescriptor.decode_encode]
  change _ = if Text.Utf16.splitsPair maxWords text then _ else _
  cases Text.Utf16.splitsPair maxWords text <;> rfl

/-- Nothing but the handle is changed, and the device can go on. -/
structure Asked (a e : Attachment Bus) : Prop where
  device : e.device =
    { a.device with held := { a.device.held with handle := e.device.held.handle } }
  devices : e.bus.devices = a.bus.devices
  failures : e.bus.failures = ∅
  usable : Usable e.device e.bus

theorem Asked.trans {a e f : Attachment Bus} (h : Asked a e) (g : Asked e f) : Asked a f := by
  refine ⟨?_, g.devices.trans h.devices, g.failures, g.usable⟩
  rw [g.device, h.device]

section

variable {a : Attachment Bus} {state : Loopback.DeviceState} (hf : a.bus.failures = ∅)
  (ha : Usable a.device a.bus) (hstate : a.bus.device? a.device.id = some state)

include hf ha hstate

/-- A request for a string descriptor gets at most 255 bytes of the reply. -/
theorem stringDescriptor_works (index : UInt8) (langid : UInt16) :
    outcome (stringDescriptor index langid) a =
        (Bus.stringReply state index.toNat).map (List.take 255) ∧
      Asked a (after (stringDescriptor index langid) a) := by
  obtain ⟨h, held, c, ho⟩ := exists_opens hf ha
  let setup := stringRequest index langid
  have hdirection : requestDirection setup.requestType = .toHost :=
    requestDirection_requestType _ _ _
  have hkind : requestKind setup.requestType = .standard := requestKind_requestType _ _ _
  have hc : c.device? held.device = some state := by
    rw [ho.device, ho.device?]
    exact hstate
  have hanswer : Bus.controlReply state held setup maxLength =
      (Bus.stringReply state index.toNat).map (List.take 255) := by
    rw [Bus.controlReply, hkind, standardReply_stringRequest]
    rfl
  have hread := Bus.controlTransfer_reads ho.failures ho.handle hc maxLength
    a.device.defaultTimeout hdirection
  have hcore := Bus.core_controlTransfer_toHost hdirection h (.receive maxLength)
    a.device.defaultTimeout c
  obtain ⟨hout, hafter⟩ := ho.controlTransfer (payload_stringRequest index langid) none
  rw [hanswer] at hread
  have hrequest := hout.trans hread
  have hwhole : stringDescriptor index langid =
      (controlTransfer setup (.length maxLength) none >>= fun reply =>
        liftResult reply.toData : DeviceAction Bus (List UInt8)) := rfl
  rw [hwhole, after_bind_liftResult, hafter, outcome_bind, hrequest]
  refine ⟨?_, rfl, ?_, ?_, ?_, ?_⟩
  · cases Bus.stringReply state index.toNat <;> rfl
  · exact (congrArg (·.devices) hcore).trans ho.devices
  · exact (congrArg (·.failures) hcore).trans ho.failures
  · exact (congrArg (fun b => (b.device? a.device.id).isSome) hcore).trans
      ((congrArg Option.isSome (ho.device? a.device.id)).trans ha.present)
  · rintro _ ⟨⟩
    exact ⟨held, (congrArg (·.handles.get? h) hcore).trans ho.handle, ho.device⟩

/-- What a device returns for its language identifiers is what is made of its table. -/
theorem langids_works :
    outcome langids a = langidsOf ((state.spec.langidTable.getD
        (encodeLangids [StringDescriptor.usEnglish])).take 255) ∧
      Asked a (after langids a) := by
  obtain ⟨hout, hasked⟩ := stringDescriptor_works hf ha hstate 0 0
  rw [langids_eq, after_bind_liftResult, outcome_bind, hout]
  exact ⟨outcome_liftResult _ _, hasked⟩

/-- What a device returns for the string with the index. -/
def textAt (strings : List (List Char)) (index : UInt8) : Except UsbError (Option String) :=
  match strings[index.toNat - 1]? with
  | some text => textOf ((StringDescriptor.encode text).take 255)
  | none => .error Loopback.stalled

theorem string_works {index : UInt8} (hindex : index ≠ 0) (langid : UInt16) :
    outcome (string index (some langid)) a = textAt state.spec.strings index ∧
      Asked a (after (string index (some langid)) a) := by
  obtain ⟨hout, hasked⟩ := stringDescriptor_works hf ha hstate index langid
  have hnumber : index.toNat ≠ 0 := fun h => hindex (UInt8.toNat_inj.1 h)
  rw [string_eq hindex, after_bind_liftResult, outcome_bind, hout, Bus.stringReply, if_neg hnumber,
    textAt]
  refine ⟨?_, hasked⟩
  cases state.spec.strings[index.toNat - 1]? with
  | some text => exact outcome_liftResult _ _
  | none => rfl

/-- Without a language it is the first one of the table that is asked for. -/
theorem string_works_first {index : UInt8} (hindex : index ≠ 0) {first : UInt16}
    {rest : List UInt16} (hfirst : outcome langids a = .ok (first :: rest)) :
    outcome (string index none) a = textAt state.spec.strings index ∧
      Asked a (after (string index none) a) := by
  obtain ⟨-, hasked⟩ := langids_works hf ha hstate
  have hafter : (after langids a).bus.device? (after langids a).device.id = some state := by
    rw [hasked.device, Bus.device?, hasked.devices]
    exact hstate
  have hwhole := string_of_langids hindex hfirst
  obtain ⟨hout, hmore⟩ := string_works hasked.failures hasked.usable hafter hindex first
  rw [outcome_congr hwhole, after_congr hwhole]
  exact ⟨hout, hasked.trans hmore⟩

end

/-! What is sent for a string, as a watched bus sees it. -/

section

variable {w : Attachment (Watched Bus)} (hf : w.bus.inner.failures = ∅)
  (hw : Usable w.device w.bus.inner)

/-- What happens on a watched bus is what happens on the bus itself. -/
theorem elementary_watched : Elementary .same (Seen (Watched.inner : Watched Bus → Bus)) :=
  elementary_seen Watched.mirror_inner rfl

include hf hw

theorem requests_stringDescriptor (index : UInt8) (langid : UInt16) :
    (after (stringDescriptor index langid) w).bus.requests =
      w.bus.requests ++ [stringRequest index langid] := by
  obtain ⟨h, held, c, ho⟩ := exists_opens (a := ⟨w.device, w.bus.inner⟩) hf hw
  have hopen : outcome openHandle w = .ok h := by
    have hseen := (elementary_watched.openHandle w ⟨w.device, w.bus.inner⟩ ⟨rfl, rfl⟩).1
    rw [outcome_map, (eq_ok_iff.1 ho.eq_ok).1] at hseen
    exact hseen
  have hwhole : stringDescriptor index langid =
      (controlTransfer (stringRequest index langid) (.length maxLength) none >>=
        fun reply => liftResult reply.toData : DeviceAction (Watched Bus) (List UInt8)) := rfl
  rw [hwhole, after_bind_liftResult,
    requests_controlTransfer hopen (payload_stringRequest index langid) none]

theorem requests_string {index : UInt8} (hindex : index ≠ 0) (langid : UInt16) :
    (after (string index (some langid)) w).bus.requests =
      w.bus.requests ++ [stringRequest index langid] := by
  rw [string_eq hindex, after_bind_liftResult, requests_stringDescriptor hf hw]

/-- The table is asked for first if no language is given. -/
theorem requests_string_first {state : Loopback.DeviceState}
    (hstate : w.bus.inner.device? w.device.id = some state) {index : UInt8} (hindex : index ≠ 0)
    {first : UInt16} {rest : List UInt16}
    (hfirst : outcome langids (⟨w.device, w.bus.inner⟩ : Attachment Bus) = .ok (first :: rest)) :
    (after (string index none) w).bus.requests =
      w.bus.requests ++ [stringRequest 0 0, stringRequest index first] := by
  -- That the second request can be sent is known from the bus that nobody watches.
  obtain ⟨-, hasked⟩ := langids_works (a := ⟨w.device, w.bus.inner⟩) hf hw hstate
  obtain ⟨hout, hdevice, hinner⟩ :=
    elementary_watched.inStep.whole.langids w ⟨w.device, w.bus.inner⟩ ⟨rfl, rfl⟩
  have hfailures : (after langids w).bus.inner.failures = ∅ := hinner ▸ hasked.failures
  have husable : Usable (after langids w).device (after langids w).bus.inner := by
    rw [hdevice, hinner]
    exact hasked.usable
  have htable : (after langids w).bus.requests = w.bus.requests ++ [stringRequest 0 0] := by
    rw [langids_eq, after_bind_liftResult, requests_stringDescriptor hf hw]
  rw [after_congr (string_of_langids hindex (hout.trans hfirst)),
    requests_string hfailures husable hindex, htable, List.append_assoc]
  rfl

end

end Device

end SerialBus
