import SerialBus.Native.Client
import SerialBus.Proofs.Evolution
import SerialBus.Proofs.Table
import SerialBus.Session.Call

/-! The calls of the backend on libusb: which of them ask something of a device and which of a
handle, what becomes of the answer, and what a call leaves as it is, whatever the library does. -/
namespace SerialBus

open SerialBus.Action Session

namespace Native

/-- What is asked of the library on a handle, and how the answer is shown. -/
structure Asked where
  handle : HandleId
  Answer : Type
  call : HandleCall Answer
  shown : Answer → Reply

namespace Asked

/-- A request whose answer says no more than that it was served. -/
def served (h : HandleId) (call : HandleCall Unit) : Asked := ⟨h, Unit, call, fun _ => .unit⟩

/-- A transfer by one of two requests, as the payload says. -/
def moved (h : HandleId) (write : List UInt8 → HandleCall Nat) (read : Nat → HandleCall Filled) :
    Payload → Asked
  | .send data => ⟨h, Nat, write data, fun count => .transferred (.written count)⟩
  | .receive length => ⟨h, Filled, read length, fun f => .transferred (.read (f.front length))⟩

end Asked

end Native

namespace Session.BackendCall

open Native

/-- The device that a call names, if it is one that need not be open. -/
def device? : BackendCall → Option DeviceId
  | .deviceDescriptor id | .configurationDescriptor id _ | .interfaceDescriptor id _ _ _
  | .endpointDescriptor id _ _ _ _ | .openDevice id => some id
  | _ => none

/-- What a call asks of the library on a handle. -/
def asked? : BackendCall → Option Asked
  | .setConfiguration h value => some (.served h (.setConfiguration value))
  | .configuration h => some ⟨h, UInt8, .configuration, fun value => .number value.toNat⟩
  | .claimInterface h number => some (.served h (.claimInterface number))
  | .releaseInterface h number => some (.served h (.releaseInterface number))
  | .setAlternate h number alternate => some (.served h (.setAlternate number alternate))
  | .bulkTransfer h endpoint _ payload ms =>
    some (.moved h (.writeBulk endpoint · ms) (.readBulk endpoint · ms) payload)
  | .interruptTransfer h endpoint _ payload ms =>
    some (.moved h (.writeInterrupt endpoint · ms) (.readInterrupt endpoint · ms) payload)
  | .controlTransfer h setup payload ms =>
    some (.moved h (.writeControl setup · ms) (.readControl setup · ms) payload)
  | .resetDevice h => some (.served h .reset)
  | .kernelDriverActive h number => some ⟨h, Bool, .kernelDriverActive number, .flag⟩
  | .detachKernelDriver h number => some (.served h (.detachKernelDriver number))
  | .attachKernelDriver h number => some (.served h (.attachKernelDriver number))
  | .clearHalt h endpoint => some (.served h (.clearHalt endpoint))
  | _ => none

/-- The handle that a call names, if it asks something of the library. -/
def handle? (c : BackendCall) : Option HandleId :=
  match c with
  | .closeDevice h => some h
  | c => c.asked?.map Asked.handle

theorem handle?_of_asked {c : BackendCall} {q : Asked} (h : c.asked? = some q) :
    c.handle? = some q.handle := by
  cases c with
  | closeDevice i => cases h
  | _ => exact congrArg (Option.map Asked.handle) h

/-- A call that names a handle asks something on it or closes it. -/
theorem asked_or_closes {c : BackendCall} {h : HandleId} (hc : c.handle? = some h) :
    c = .closeDevice h ∨ ∃ q, c.asked? = some q ∧ q.handle = h := by
  have hmap : c.asked?.map Asked.handle = some h → ∃ q, c.asked? = some q ∧ q.handle = h :=
    Option.map_eq_some_iff.1
  cases c with
  | closeDevice i =>
    cases hc
    exact .inl rfl
  | _ => exact .inr (hmap hc)

end Session.BackendCall

namespace Native.Client

variable {L D H V α : Type} {b : Client L D H} {d : D}

/-! What the library is asked, and what reading leaves. -/

theorem ask_of_ok {act : EStateM Failure L α} {a : α} {library : L}
    (h : act b.library = .ok a library) : ask act b = .ok a { b with library } := by
  simp only [ask, h]

theorem ask_of_error {act : EStateM Failure L α} {e : Failure} {library : L}
    (h : act b.library = .error e library) : ask act b = .error e.toError { b with library } := by
  simp only [ask, h]

/-- Reading a descriptor changes nothing but the library. -/
def sameContext : Evolution (Client L D H) where
  rel b c := c.context = b.context
  refl _ := rfl
  trans h k := k.trans h

theorem keeps_ask (act : EStateM Failure L α) :
    Keeps sameContext (ask act : Action (Client L D H) α) := by
  intro b
  simp only [sameContext, after, ask]
  cases act b.library <;> rfl

/-! Calls on a device. -/

theorem withDevice_of_some {id : DeviceId} (f : D → Action (Client L D H) α)
    (h : b.context.known.get? id = some d) : withDevice id f b = f d b := by
  simp only [withDevice, h]

theorem withDevice_of_none {id : DeviceId} (f : D → Action (Client L D H) α)
    (h : b.context.known.get? id = none) :
    withDevice id f b = .error (.transport .noDevice (some (-4))) b := by
  simp only [withDevice, h]
  rfl

section

variable [Libusb L D H]

theorem openHandle_of_ok {s : H} {library : L}
    (h : Libusb.openDevice d b.library = .ok s library) :
    openHandle d b = .ok ⟨b.context.nextHandle⟩ { library, context := { b.context with
      handles := b.context.handles.insert ⟨b.context.nextHandle⟩ s
      nextHandle := b.context.nextHandle + 1 } } :=
  bind_eq_of_ok _ (ask_of_ok h)

theorem openHandle_of_error {e : Failure} {library : L}
    (h : Libusb.openDevice d b.library = .error e library) :
    openHandle d b = .error e.toError { b with library } :=
  bind_eq_of_error _ (ask_of_error h)

/-- The configuration of a device that tells it without a failure. -/
theorem configurationAt_of_ok {config : UInt8} {told : Decoded.Device} {l m : L}
    {tree : Decoded.Configuration} (hd : Libusb.deviceDescriptor d b.library = .ok told l)
    (hlt : config < told.numConfigurations) (ht : Libusb.configDescriptor d config l = .ok tree m) :
    configurationAt d config b = .ok tree { b with library := m } := by
  unfold configurationAt
  rw [bind_eq_of_ok _ (ask_of_ok hd), if_neg (UInt8.not_le.2 hlt)]
  exact (bind_eq_of_ok _ rfl).trans (ask_of_ok ht)

theorem configurationAt_of_le {config : UInt8} {told : Decoded.Device} {l : L}
    (hd : Libusb.deviceDescriptor d b.library = .ok told l) (hle : told.numConfigurations ≤ config) :
    configurationAt d config b =
      .error (.invalidDescriptorIndex .configuration config) { b with library := l } := by
  unfold configurationAt
  rw [bind_eq_of_ok _ (ask_of_ok hd), if_pos hle]
  rfl

theorem alternateAt_of_some {interface alternate config : UInt8} {tree : Decoded.Configuration}
    {alternates : List Decoded.Alternate} {a : Decoded.Alternate} {c : Client L D H}
    (ht : configurationAt d config b = .ok tree c)
    (hi : tree.interfaces[interface.toNat]? = some alternates)
    (ha : alternates[alternate.toNat]? = some a) :
    alternateAt d interface alternate config b = .ok a c := by
  unfold alternateAt
  rw [bind_eq_of_ok _ ht]
  simp only [hi, ha]
  rfl

theorem endpointAt_of_some {endpoint interface alternate config : UInt8} {a : Decoded.Alternate}
    {e : Decoded.Endpoint} {c : Client L D H}
    (ha : alternateAt d interface alternate config b = .ok a c)
    (he : a.endpoints[endpoint.toNat]? = some e) :
    endpointAt d endpoint interface alternate config b = .ok e c := by
  unfold endpointAt
  rw [bind_eq_of_ok _ ha]
  simp only [he]
  rfl

theorem keeps_configurationAt (d : D) (config : UInt8) :
    Keeps sameContext (configurationAt d config : Action (Client L D H) Decoded.Configuration) := by
  refine (keeps_ask _).bind fun device => ?_
  exact keeps_ite (keeps_liftResult (.error _)) ((keeps_pure _).bind fun _ => keeps_ask _)

theorem keeps_alternateAt (d : D) (interface alternate config : UInt8) : Keeps sameContext
    (alternateAt d interface alternate config : Action (Client L D H) Decoded.Alternate) := by
  refine (keeps_configurationAt d config).bind fun c => ?_
  cases c.interfaces[interface.toNat]? with
  | none => exact keeps_liftResult (.error _)
  | some alternates =>
    dsimp only
    cases alternates[alternate.toNat]? with
    | none => exact keeps_liftResult (.error _)
    | some a => exact keeps_pure a

theorem keeps_endpointAt (d : D) (endpoint interface alternate config : UInt8) : Keeps sameContext
    (endpointAt d endpoint interface alternate config : Action (Client L D H) Decoded.Endpoint) := by
  refine (keeps_alternateAt d interface alternate config).bind fun a => ?_
  cases a.endpoints[endpoint.toNat]? with
  | none => exact keeps_liftResult (.error _)
  | some e => exact keeps_pure e

variable [Located D]

/-- What a call that names a device does with it once it is found. -/
def onDevice (d : D) : BackendCall → Action (Client L D H) Reply
  | .deviceDescriptor _ => return .deviceDescriptor (← describe d)
  | .configurationDescriptor _ config =>
    return .configurationDescriptor (← configurationAt d config).descriptor
  | .interfaceDescriptor _ interface alternate config =>
    return .interfaceDescriptor (← alternateAt d interface alternate config).descriptor
  | .endpointDescriptor _ endpoint interface alternate config =>
    return .endpointDescriptor (← endpointAt d endpoint interface alternate config).descriptor
  | .openDevice _ => return .number (← openHandle d).number
  | c => c.perform

theorem perform_eq_withDevice {c : BackendCall} {id : DeviceId} (hc : c.device? = some id) :
    (c.perform : Action (Client L D H) Reply) = withDevice id fun d => onDevice d c := by
  have hlook : ∀ {α : Type} (f : D → Action (Client L D H) α) (shown : α → Reply),
      (withDevice id f >>= fun a => pure (shown a)) =
        withDevice id fun d => f d >>= fun a => pure (shown a) := by
    intro α f shown
    funext b
    cases hd : b.context.known.get? id with
    | none =>
      rw [withDevice_of_none _ hd]
      exact bind_eq_of_error _ (withDevice_of_none f hd)
    | some d =>
      rw [withDevice_of_some _ hd]
      simp only [bind, EStateM.bind, withDevice_of_some f hd]
  cases c with
  | deviceDescriptor i =>
    cases hc
    exact hlook describe .deviceDescriptor
  | configurationDescriptor i config =>
    cases hc
    refine (hlook _ .configurationDescriptor).trans ?_
    simp only [bind_assoc, pure_bind, onDevice]
  | interfaceDescriptor i interface alternate config =>
    cases hc
    refine (hlook _ .interfaceDescriptor).trans ?_
    simp only [bind_assoc, pure_bind, onDevice]
  | endpointDescriptor i endpoint interface alternate config =>
    cases hc
    refine (hlook _ .endpointDescriptor).trans ?_
    simp only [bind_assoc, pure_bind, onDevice]
  | openDevice i =>
    cases hc
    exact hlook openHandle fun h => .number h.number
  | _ => cases hc

/-- A device that is found is read, unless it is opened. -/
theorem keeps_onDevice {c : BackendCall} {id : DeviceId} (hc : c.device? = some id)
    (hopen : ∀ i, c ≠ .openDevice i) (d : D) :
    Keeps sameContext (onDevice d c : Action (Client L D H) Reply) := by
  cases c with
  | deviceDescriptor i =>
    exact ((keeps_ask _).bind fun _ => keeps_pure _).bind fun _ => keeps_pure _
  | configurationDescriptor i config =>
    exact (keeps_configurationAt d config).bind fun _ => keeps_pure _
  | interfaceDescriptor i interface alternate config =>
    exact (keeps_alternateAt d interface alternate config).bind fun _ => keeps_pure _
  | endpointDescriptor i endpoint interface alternate config =>
    exact (keeps_endpointAt d endpoint interface alternate config).bind fun _ => keeps_pure _
  | openDevice i => exact absurd rfl (hopen i)
  | _ => cases hc

end

/-! Calls on a handle. -/

section

variable [Libusb L D H]

/-- The library's answer to what is asked of it on a handle, which is then in a new state. -/
def answer (b : Client L D H) (q : Asked) (s : H) : EStateM.Result UsbError (Client L D H) Reply :=
  match Libusb.onHandle q.call (b.library, s) with
  | .ok a (library, t) => .ok (q.shown a)
    { library, context := { b.context with handles := b.context.handles.insert q.handle t } }
  | .error e (library, t) => .error e.toError
    { library, context := { b.context with handles := b.context.handles.insert q.handle t } }

theorem closeDevice_of_some {h : HandleId} {s : H} (hs : b.context.handles.get? h = some s) :
    closeDevice h b = .ok () { library := Libusb.closeDevice s b.library, context := { b.context with
      handles := b.context.handles.erase h } } := by
  simp only [closeDevice, hs]

variable [Located D]

theorem perform_eq_withHandle {c : BackendCall} {q : Asked} (hc : c.asked? = some q) :
    (c.perform : Action (Client L D H) Reply) = q.shown <$> withHandle q.handle q.call := by
  have hserved : ∀ (h : HandleId) (call : HandleCall Unit),
      (unitReply (withHandle h call) : Action (Client L D H) Reply) =
        (fun _ => .unit) <$> withHandle h call := fun h call => (map_eq_pure_bind _ _).symm
  have hmoved : ∀ h write read payload,
      (transfer h write read payload >>= fun t => pure (.transferred t) :
        Action (Client L D H) Reply) =
      (Asked.moved h write read payload).shown <$>
        withHandle (Asked.moved h write read payload).handle
          (Asked.moved h write read payload).call := by
    intro h write read payload
    cases payload with
    | send data => simp only [transfer, Asked.moved, bind_assoc, pure_bind, map_eq_pure_bind]
    | receive length => simp only [transfer, Asked.moved, bind_assoc, pure_bind, map_eq_pure_bind]
  cases c with
  | bulkTransfer h endpoint number payload ms =>
    cases hc
    exact hmoved h _ _ payload
  | interruptTransfer h endpoint number payload ms =>
    cases hc
    exact hmoved h _ _ payload
  | controlTransfer h setup payload ms =>
    cases hc
    exact hmoved h _ _ payload
  | configuration h | kernelDriverActive h number =>
    cases hc
    exact (map_eq_pure_bind _ _).symm
  | setConfiguration | claimInterface | releaseInterface | setAlternate | resetDevice
  | detachKernelDriver | attachKernelDriver | clearHalt =>
    cases hc
    exact hserved _ _
  | _ => cases hc

theorem perform_of_open {c : BackendCall} {q : Asked} {s : H} (hc : c.asked? = some q)
    (hs : b.context.handles.get? q.handle = some s) : c.perform b = b.answer q s := by
  rw [perform_eq_withHandle hc]
  simp only [Functor.map, EStateM.map, withHandle, hs, answer]
  cases Libusb.onHandle q.call (b.library, s) <;> rfl

/-- A handle that is not open is of no use. -/
theorem perform_of_closed {c : BackendCall} {h : HandleId} (hc : c.handle? = some h)
    (hs : b.context.handles.get? h = none) :
    c.perform b = .error (.transport .invalidParam (some (-2))) b := by
  rcases BackendCall.asked_or_closes hc with rfl | ⟨q, hq, rfl⟩
  · have hclose : closeDevice h b = .error (.transport .invalidParam (some (-2))) b := by
      simp only [closeDevice, hs]
      rfl
    exact bind_eq_of_error _ hclose
  · rw [perform_eq_withHandle hq]
    simp only [Functor.map, EStateM.map, withHandle, hs]
    rfl

end

/-! What calls leave as it is. -/

/-- The registry is the same, and each handle is open for the same device. -/
structure Steady (view : H → V) (b c : Client L D H) : Prop where
  positions : c.context.positions = b.context.positions
  known : c.context.known = b.context.known
  lastId : c.context.lastId = b.context.lastId
  nextHandle : c.context.nextHandle = b.context.nextHandle
  handles : ∀ h, (c.context.handles.get? h).map view = (b.context.handles.get? h).map view

theorem steady_of_context_eq {view : H → V} {c : Client L D H} (h : c.context = b.context) :
    Steady view b c := by
  constructor <;> simp only [h, implies_true]

theorem steady_putBack {view : H → V} {h : HandleId} {s : H} {left : L × H}
    (hs : b.context.handles.get? h = some s) (hview : view left.2 = view s) :
    Steady view b (b.putBack h left) := by
  refine ⟨rfl, rfl, rfl, rfl, fun i => ?_⟩
  simp only [putBack]
  by_cases hi : h = i
  · subst hi
    rw [Table.get?_insert_self, hs, Option.map_some, Option.map_some, hview]
  · rw [Table.get?_insert_of_ne hi]

section

variable [Libusb L D H]

/-- What one can tell of a device from the handles that are open on it, if the library opens a
handle for the device that it is given and never turns it over to another one. -/
structure Keeping (L : Type) [Libusb L D H] (seen : D → V) (view : H → V) : Prop where
  opens : ∀ {d : D} {l m : L} {s : H}, Libusb.openDevice d l = .ok s m → view s = seen d
  answers : ∀ {α : Type} {call : HandleCall α} {l m : L} {s t : H} {a : α},
    Libusb.onHandle call (l, s) = .ok a (m, t) → view t = view s
  refuses : ∀ {α : Type} {call : HandleCall α} {l m : L} {s t : H} {e : Failure},
    Libusb.onHandle call (l, s) = .error e (m, t) → view t = view s

theorem keeping_unit : Keeping L (fun _ : D => ()) (fun _ : H => ()) := by
  constructor <;> intros <;> rfl

variable [Located D]

/-- The calls that change what is known or which handles are open are the enumeration, opening and
closing. -/
theorem steady_perform {seen : D → V} {view : H → V} (hk : Keeping L seen view) {c : BackendCall}
    (hdevices : c ≠ .devices) (hopen : ∀ id, c ≠ .openDevice id)
    (hclose : ∀ h, c ≠ .closeDevice h) (b : Client L D H) :
    Steady view b (after c.perform b) := by
  cases hd : c.device? with
  | some id =>
    rw [perform_eq_withDevice hd]
    apply steady_of_context_eq
    cases hknown : b.context.known.get? id with
    | none => rw [(eq_error_iff.1 (withDevice_of_none _ hknown)).2]
    | some d =>
      rw [after_congr (withDevice_of_some _ hknown)]
      exact keeps_onDevice hd hopen d b
  | none =>
    cases hq : c.asked? with
    | some q =>
      cases hs : b.context.handles.get? q.handle with
      | none =>
        rw [(eq_error_iff.1 (perform_of_closed (BackendCall.handle?_of_asked hq) hs)).2]
        exact steady_of_context_eq rfl
      | some s =>
        have hperform := perform_of_open hq hs
        unfold answer at hperform
        cases hanswer : Libusb.onHandle q.call (b.library, s) with
        | ok a left =>
          simp only [hanswer] at hperform
          rw [(eq_ok_iff.1 hperform).2]
          exact steady_putBack hs (hk.answers hanswer)
        | error e left =>
          simp only [hanswer] at hperform
          rw [(eq_error_iff.1 hperform).2]
          exact steady_putBack hs (hk.refuses hanswer)
    | none =>
      cases c with
      | name | isochronousTransfer => exact steady_of_context_eq rfl
      | devices => exact absurd rfl hdevices
      | closeDevice h => exact absurd rfl (hclose h)
      | deviceDescriptor | configurationDescriptor | interfaceDescriptor | endpointDescriptor
      | openDevice => cases hd
      | _ => cases hq

/-- A call that names no device depends on the library and the handles alone. -/
theorem perform_congr {c : BackendCall} (hd : c.device? = none) (hdevices : c ≠ .devices)
    {b' : Client L D H} (hl : b.library = b'.library)
    (hh : b.context.handles = b'.context.handles) :
    outcome c.perform b = outcome c.perform b' ∧
      (after c.perform b).library = (after c.perform b').library ∧
      (after c.perform b).context.handles = (after c.perform b').context.handles := by
  cases hc : c.handle? with
  | none =>
    cases c with
    | name | isochronousTransfer => exact ⟨rfl, hl, hh⟩
    | devices => exact absurd rfl hdevices
    | deviceDescriptor | configurationDescriptor | interfaceDescriptor | endpointDescriptor
    | openDevice => cases hd
    | _ => cases hc
  | some h =>
    cases hs : b.context.handles.get? h with
    | none =>
      have hb := eq_error_iff.1 (perform_of_closed hc hs)
      have hb' := eq_error_iff.1 (perform_of_closed hc (hh ▸ hs))
      rw [hb.1, hb.2, hb'.1, hb'.2]
      exact ⟨rfl, hl, hh⟩
    | some s =>
      rcases BackendCall.asked_or_closes hc with rfl | ⟨q, hq, rfl⟩
      · have hb : (BackendCall.closeDevice h).perform b = _ :=
          bind_eq_of_ok _ (closeDevice_of_some hs)
        have hb' : (BackendCall.closeDevice h).perform b' = _ :=
          bind_eq_of_ok _ (closeDevice_of_some (hh ▸ hs))
        rw [(eq_ok_iff.1 hb).1, (eq_ok_iff.1 hb).2, (eq_ok_iff.1 hb').1, (eq_ok_iff.1 hb').2, hl, hh]
        exact ⟨rfl, rfl, rfl⟩
      · have hb : c.perform b = b.answer q s := perform_of_open hq hs
        have hb' : c.perform b' = b'.answer q s := perform_of_open hq (hh ▸ hs)
        simp only [outcome, after, hb, hb', answer, hl, hh]
        cases Libusb.onHandle q.call (b'.library, s) <;> exact ⟨rfl, rfl, rfl⟩

end

end Native.Client

end SerialBus
