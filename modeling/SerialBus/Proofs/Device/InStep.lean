import SerialBus.Proofs.Device.Parts
import SerialBus.Proofs.Device.Reads
import SerialBus.Session.Call

/-! Operations of devices in step with one another, up to the number of the handle: it is enough that
the operations of the two backends are in step, and the few that change who holds what. -/
namespace SerialBus

open SerialBus.Action Session

variable {σ τ α : Type} [Backend σ] [Backend τ]

/-- What is held, on a backend that numbers handles by `ρ`. -/
def Holdings.renumbered (ρ : HandleId → HandleId) (held : Holdings) : Holdings :=
  { held with handle := held.handle.map ρ }

/-- The device on a backend that numbers handles by `ρ`. -/
def Device.renumbered (ρ : HandleId → HandleId) (d : Device) : Device :=
  { d with held := d.held.renumbered ρ }

/-- Only a reply that shows a whole device shows the number of a handle. -/
def Session.Reply.renumbered (ρ : HandleId → HandleId) : Reply → Reply
  | .device d backend => .device (d.renumbered ρ) backend
  | r => r

/-- What is left of a device apart from the number of its handle. -/
def Device.unnumbered (d : Device) : Device := d.renumbered fun _ => ⟨0⟩

def Session.Reply.unnumbered (r : Reply) : Reply := r.renumbered fun _ => ⟨0⟩

theorem Device.unnumbered_renumbered (ρ : HandleId → HandleId) (d : Device) :
    (d.renumbered ρ).unnumbered = d.unnumbered := by
  obtain ⟨_, _, _, ⟨handle, _, _, _, _⟩⟩ := d
  cases handle <;> rfl

theorem Session.Reply.unnumbered_renumbered (ρ : HandleId → HandleId) (r : Reply) :
    (r.renumbered ρ).unnumbered = r.unnumbered := by
  cases r with
  | device d backend => exact congrArg (Reply.device · backend) (d.unnumbered_renumbered ρ)
  | _ => rfl

theorem Holdings.renumbered_same (held : Holdings) : held.renumbered .same = held := by
  obtain ⟨handle, _, _, _, _⟩ := held
  cases handle <;> rfl

theorem Device.renumbered_same (d : Device) : d.renumbered .same = d := by
  rw [renumbered, Holdings.renumbered_same]

theorem Device.eq_of_same {f g : Device → Device}
    (h : ∀ d, f (d.renumbered .same) = (g d).renumbered .same) : f = g := by
  funext d
  have hd := h d
  rwa [renumbered_same, renumbered_same] at hd

theorem Session.Reply.renumbered_same (r : Reply) : r.renumbered .same = r := by
  cases r with
  | device d backend => exact congrArg (Reply.device · backend) d.renumbered_same
  | _ => rfl

namespace Device

/-- The relation of two buses that a device is on, numbered by `ρ` on the first one. -/
def On (ρ : HandleId → HandleId) (P : Attachment σ → Attachment τ → Prop) (d : Device) :
    σ → τ → Prop :=
  fun s t => P ⟨d.renumbered ρ, s⟩ ⟨d, t⟩

section

variable {ρ : HandleId → HandleId} {P : Attachment σ → Attachment τ → Prop}
  (hdevice : ∀ {s t}, P s t → s.device = t.device.renumbered ρ)

include hdevice

omit [Backend σ] [Backend τ] in
theorem simulates_onBus {act : Action σ α} {model : Action τ α}
    (h : ∀ d, Simulates (On ρ P d) act model) : Simulates P (onBus act) (onBus model) := by
  intro s t hs
  have hd := hdevice hs
  obtain ⟨d, b⟩ := s
  obtain ⟨e, c⟩ := t
  subst hd
  obtain ⟨ho, ha⟩ := h e b c hs
  rw [outcome_onBus, outcome_onBus, after_onBus, after_onBus]
  exact ⟨ho, ha⟩

omit [Backend σ] [Backend τ] in
theorem simulates_getDevice : Simulates P getDevice (Device.renumbered ρ <$> getDevice) :=
  fun s t h => by
    rw [outcome_getDevice, outcome_map, after_map, outcome_getDevice, hdevice h]
    exact ⟨rfl, h⟩

omit [Backend σ] [Backend τ] in
theorem simulates_getHeld : Simulates P getHeld (Holdings.renumbered ρ <$> getHeld) :=
  fun s t h => by
    rw [outcome_getHeld, outcome_map, after_map, outcome_getHeld, hdevice h]
    exact ⟨rfl, h⟩

end

/-- The operations that move data, in step. -/
def TransfersInStep (ρ : HandleId → HandleId) (P : Attachment σ → Attachment τ → Prop) : Prop :=
  ∀ d {α : Type} (op : Operation α), op.movesData →
    Simulates (On ρ P d) (op.renumbered ρ).act op.act

/-- A change of what is remembered, but not of what is held. -/
structure RemembersOnly (f : Holdings → Holdings) : Prop where
  handle : ∀ held i, f { held with handle := i } = { f held with handle := i }
  claimed : ∀ held, (f held).claimed = held.claimed

theorem RemembersOnly.handle_eq {f : Holdings → Holdings} (hf : RemembersOnly f)
    (held : Holdings) : (f held).handle = held.handle := by
  have hsame := congrArg Holdings.handle (hf.handle held held.handle)
  exact hsame

/-- The standard operations of a bus that neither change owners nor move data nor select anything, in
step. -/
structure Plain (ρ : HandleId → HandleId) (P : Attachment σ → Attachment τ → Prop) : Prop where
  name : Backend.name σ = Backend.name τ
  device : ∀ {s t}, P s t → s.device = t.device.renumbered ρ
  bus : ∀ d {α : Type} (op : Operation α), op.isQuiet → op.selects = false → op.isStandard →
    Simulates (On ρ P d) (op.renumbered ρ).act op.act

/-- What all operations but resets and transfers are put together from, in step, where what is
remembered of the bus goes along with it. -/
structure Whole (ρ : HandleId → HandleId) (P : Attachment σ → Attachment τ → Prop) : Prop
    extends Plain ρ P where
  setTimeout : ∀ n : Nat, Simulates P (modifyDevice ({ · with defaultTimeout := n }))
    (modifyDevice ({ · with defaultTimeout := n }))
  openHandle : Simulates P openHandle (ρ <$> openHandle)
  acquire : ∀ number level, (∀ n, 1 ≤ level n) →
    Simulates P (acquire number level) (acquire number level)
  release : ∀ number, Simulates P (release (.number number)) (release (.number number))
  dispose : Simulates P (dispose true) (dispose true)
  setConfiguration : ∀ value, Simulates P (setConfiguration value) (setConfiguration value)
  activeConfiguration : Simulates P activeConfiguration activeConfiguration
  selectAlternate : ∀ number alternate, Simulates P (selectAlternate number alternate)
    (selectAlternate number alternate)

/-- The transfers on interfaces named by number or by default, in step. -/
def NamedTransfers (P : Attachment σ → Attachment τ → Prop) : Prop :=
  ∀ endpoint payload interface timeout,
    Simulates P (transfer endpoint payload (.ofNumber? interface) timeout)
      (transfer endpoint payload (.ofNumber? interface) timeout)

/-- The transfers on interfaces that were looked up before, in step. -/
def ResolvedTransfers (P : Attachment σ → Attachment τ → Prop) : Prop :=
  ∀ endpoint payload location timeout,
    Simulates P (transfer endpoint payload (.resolved location) timeout)
      (transfer endpoint payload (.resolved location) timeout)

/-- What all operations but resets and transfers are put together from, in step. -/
structure InStep (ρ : HandleId → HandleId) (P : Attachment σ → Attachment τ → Prop) : Prop where
  name : Backend.name σ = Backend.name τ
  device : ∀ {s t}, P s t → s.device = t.device.renumbered ρ
  bus : ∀ d {α : Type} (op : Operation α), op.isQuiet →
    Simulates (On ρ P d) (op.renumbered ρ).act op.act
  remember : ∀ f, RemembersOnly f → Simulates P (modifyHeld f) (modifyHeld f)
  setTimeout : ∀ n : Nat, Simulates P (modifyDevice ({ · with defaultTimeout := n }))
    (modifyDevice ({ · with defaultTimeout := n }))
  openHandle : Simulates P openHandle (ρ <$> openHandle)
  acquire : ∀ number level, (∀ n, 1 ≤ level n) →
    Simulates P (acquire number level) (acquire number level)
  release : ∀ number, Simulates P (release (.number number)) (release (.number number))
  dispose : Simulates P (dispose true) (dispose true)

namespace Plain

variable {ρ : HandleId → HandleId} {P : Attachment σ → Attachment τ → Prop} (hP : Plain ρ P)

include hP

theorem onBus {act : Action σ α} {model : Action τ α}
    (h : ∀ d, Simulates (On ρ P d) act model) : Simulates P (onBus act) (onBus model) :=
  simulates_onBus hP.device h

theorem getDevice : Simulates P getDevice (Device.renumbered ρ <$> getDevice) :=
  simulates_getDevice hP.device

theorem getHeld : Simulates P getHeld (Holdings.renumbered ρ <$> getHeld) :=
  simulates_getHeld hP.device

theorem timeoutOr (timeout : Option Nat) :
    Simulates P (timeoutOr timeout) (Device.timeoutOr timeout) :=
  hP.getDevice.mapBind fun _ => simulates_pure _

theorem reads (d : Device) : Device.Reads (On ρ P d) where
  act op hr := by
    obtain ⟨hquiet, hselects⟩ := Operation.isQuiet_of_reads hr
    have hop := hP.bus d op hquiet hselects (Operation.isStandard_of_reads hr)
    rwa [Operation.renumbered_of_reads hr] at hop

theorem query (op : Operation α) (hr : op.reads) :
    Simulates P (SerialBus.onBus op.act) (SerialBus.onBus op.act) :=
  hP.onBus fun d => (hP.reads d).act op hr

/-! The operations that look something up. -/

theorem configurationByValue (value : UInt8) :
    Simulates P (configurationByValue value) (Device.configurationByValue value) :=
  hP.getDevice.mapBind fun d =>
    hP.onBus fun d' => ((hP.reads d').configurationCursor d.id _).find _ 0

theorem chooseConfiguration (value : Option UInt8) :
    Simulates P (chooseConfiguration value) (Device.chooseConfiguration value) := by
  cases value with
  | none =>
    exact hP.getDevice.mapBind fun d =>
      (hP.query (.configurationDescriptor d.id 0) rfl).bind
        fun _ => simulates_pure _
  | some value =>
    refine simulates_ite (simulates_pure _) ((hP.configurationByValue value).bind fun found => ?_)
    cases found with
    | none => exact simulates_throw _
    | some c => exact simulates_pure _

theorem findNumbered (id : DeviceId) (config numInterfaces number : UInt8) :
    Simulates P (findNumbered id config numInterfaces number)
      (Device.findNumbered id config numInterfaces number) := by
  refine hP.getHeld.mapBind fun held => (hP.onBus fun d => (hP.reads d).walk.find _ _).bind fun found => ?_
  cases found with
  | some location => exact simulates_pure _
  | none => exact simulates_throw _

theorem findTarget (target : InterfaceTarget) (config numInterfaces : UInt8) :
    Simulates P (findTarget target config numInterfaces)
      (Device.findTarget target config numInterfaces) := by
  refine hP.getDevice.mapBind fun d => ?_
  cases target with
  | resolved location => exact simulates_pure _
  | number n => exact hP.findNumbered _ _ _ n
  | default =>
    exact (hP.query (.interfaceDescriptor d.id 0 0 config) rfl).bind
      fun _ => hP.findNumbered _ _ _ _

theorem interfaceNumber (target : InterfaceTarget) :
    Simulates P (interfaceNumber target) (Device.interfaceNumber target) := by
  cases target with
  | default =>
    exact hP.getDevice.mapBind fun d =>
      (hP.query (.interfaceDescriptor d.id 0 0 0) rfl).bind
        fun _ => simulates_pure _
  | number n => exact simulates_pure _
  | resolved location => exact simulates_pure _

theorem hasAlternate (config number alternate : UInt8) :
    Simulates P (hasAlternate config number alternate)
      (Device.hasAlternate config number alternate) :=
  hP.getDevice.mapBind fun d =>
    (hP.query (.configurationDescriptor d.id config) rfl).bind fun _ =>
      (hP.onBus fun d' => (hP.reads d').walk.filter _ _).bind fun _ => simulates_pure _

theorem checkAlternate (current : InterfaceLocation) (alternate : UInt8) :
    Simulates P (checkAlternate current alternate) (Device.checkAlternate current alternate) :=
  simulates_ite ((hP.hasAlternate _ _ _).bind fun _ =>
    simulates_ite (simulates_throw _) (simulates_pure _)) (simulates_pure _)

theorem dataTransfer (hT : TransfersInStep ρ P) (kind : TransferType) (h : HandleId)
    (endpoint number : UInt8) (payload : Payload) (timeout : Nat) :
    Simulates P (dataTransfer kind (ρ h) endpoint number payload timeout)
      (Device.dataTransfer kind h endpoint number payload timeout) := by
  cases kind with
  | bulk => exact hP.onBus fun d => hT d (.bulkTransfer h endpoint number payload timeout) rfl
  | interrupt =>
    exact hP.onBus fun d => hT d (.interruptTransfer h endpoint number payload timeout) rfl
  | isochronous =>
    exact hP.onBus fun d => hT d (.isochronousTransfer h endpoint number payload timeout) rfl
  | control => exact simulates_throw _

/-! What remembers something of the bus, once this is shown to be in step too. -/

theorem setConfiguration (hopen : Simulates P openHandle (ρ <$> openHandle))
    (hset : ∀ h index value,
      Simulates P (configure (ρ h) index value) (configure h index value))
    (value : Option UInt8) :
    Simulates P (setConfiguration value) (Device.setConfiguration value) :=
  (hP.chooseConfiguration value).bind fun c => hopen.mapBind fun h => hset h c.1 c.2

theorem activeConfiguration (hopen : Simulates P openHandle (ρ <$> openHandle))
    (hnote : ∀ index, Simulates P (noteActive index) (noteActive index)) :
    Simulates P activeConfiguration Device.activeConfiguration := by
  refine hP.getHeld.mapBind fun held => ?_
  dsimp only [Holdings.renumbered]
  cases held.activeConfig with
  | some index =>
    exact hP.getDevice.mapBind fun d =>
      (hP.query (.configurationDescriptor d.id index) rfl).bind
        fun _ => simulates_pure _
  | none =>
    refine hopen.mapBind fun h => (hP.onBus fun d => hP.bus d (.configuration h) rfl rfl rfl).bind
      fun value => simulates_ite (simulates_throw _) ?_
    refine (hP.configurationByValue value).bind fun found => ?_
    cases found with
    | none => exact simulates_throw _
    | some c =>
      obtain ⟨index, descriptor⟩ := c
      exact (hnote index).bind fun _ => simulates_pure _

theorem endpointType (hnote : ∀ key kind, Simulates P (noteType key kind) (noteType key kind))
    (address : UInt8) (l : InterfaceLocation) :
    Simulates P (endpointType address l) (Device.endpointType address l) := by
  refine hP.getHeld.mapBind fun held => ?_
  dsimp only [Holdings.renumbered]
  cases held.endpointTypes.get? _ with
  | some kind => exact simulates_pure _
  | none =>
    refine hP.getDevice.mapBind fun d =>
      (hP.onBus fun d' => ((hP.reads d').endpointCursor d.id l).find _ 0).bind fun found => ?_
    cases found with
    | none => exact simulates_throw _
    | some e =>
      obtain ⟨index, e⟩ := e
      exact (hnote _ _).bind fun _ => simulates_pure _

end Plain

namespace Whole

variable {ρ : HandleId → HandleId} {P : Attachment σ → Attachment τ → Prop} (hP : Whole ρ P)

include hP

theorem findInterface (target : InterfaceTarget) :
    Simulates P (findInterface target) (Device.findInterface target) := by
  rw [findInterface_eq, findInterface_eq]
  exact hP.activeConfiguration.bind fun c => hP.findTarget target _ _

theorem claim (target : InterfaceTarget) :
    Simulates P (claim target) (Device.claim target) :=
  (hP.interfaceNumber target).bind fun number => hP.acquire number (· + 1) fun n => Nat.le_add_left 1 n

theorem ensureClaimed (target : InterfaceTarget) :
    Simulates P (ensureClaimed target) (Device.ensureClaimed target) :=
  (hP.interfaceNumber target).bind fun number => hP.acquire number (max · 1) fun n => Nat.le_max_right n 1

theorem giveBack (target : InterfaceTarget) :
    Simulates P (Device.release target) (Device.release target) := by
  rw [release_eq, release_eq]
  exact (hP.interfaceNumber target).bind hP.release

theorem setAlternate (target : InterfaceTarget) (alternate : Option UInt8) :
    Simulates P (setAlternate target alternate) (Device.setAlternate target alternate) := by
  rw [setAlternate_eq, setAlternate_eq]
  exact (hP.findInterface target).bind fun current =>
    (hP.checkAlternate current _).bind fun _ => hP.selectAlternate _ _

/-! Transfers and requests. -/

theorem prepare (hE : ∀ address l, Simulates P (endpointType address l) (endpointType address l))
    (endpoint : UInt8) (target : InterfaceTarget) (timeout : Option Nat) :
    Simulates P (prepare endpoint target timeout)
      ((fun r => (r.1, ρ r.2.1, r.2.2)) <$> Device.prepare endpoint target timeout) := by
  unfold Device.prepare
  simp only [map_bind, map_pure]
  exact (hP.findInterface target).bind fun _ => (hE endpoint _).bind fun _ =>
    (hP.ensureClaimed _).bind fun _ => hP.openHandle.mapBind fun _ => (hP.timeoutOr timeout).bind
      fun _ => simulates_pure _

theorem transfer (hE : ∀ address l, Simulates P (endpointType address l) (endpointType address l))
    (hT : TransfersInStep ρ P) (endpoint : UInt8) (payload : Payload)
    (target : InterfaceTarget) (timeout : Option Nat) :
    Simulates P (transfer endpoint payload target timeout)
      (Device.transfer endpoint payload target timeout) := by
  rw [transfer_eq, transfer_eq]
  exact (hP.prepare hE endpoint target timeout).mapBind fun _ => hP.dataTransfer hT _ _ _ _ _ _

omit hP in
theorem write (hN : NamedTransfers P) (endpoint : UInt8) (data : List UInt8)
    (interface : Option UInt8) (timeout : Option Nat) :
    Simulates P (write endpoint data interface timeout)
      (Device.write endpoint data interface timeout) :=
  (hN _ _ _ _).bind fun _ => simulates_liftResult _

omit hP in
theorem receive (hN : NamedTransfers P) (endpoint : UInt8) (length : Nat)
    (interface : Option UInt8) (timeout : Option Nat) :
    Simulates P (receive endpoint length interface timeout)
      (Device.receive endpoint length interface timeout) :=
  (hN _ _ _ _).bind fun _ => simulates_liftResult _

/-- A control transfer is in step if that of the bus is. -/
theorem controlTransfer {setup : Setup} (data : ControlData) (timeout : Option Nat)
    (hbus : ∀ d h payload ms, Simulates (On ρ P d)
      (Backend.controlTransfer (ρ h) setup payload ms : Action σ _)
      (Backend.controlTransfer h setup payload ms)) :
    Simulates P (controlTransfer setup data timeout)
      (Device.controlTransfer setup data timeout) :=
  (simulates_liftResult _).bind fun payload => hP.openHandle.mapBind fun h =>
    (hP.timeoutOr timeout).bind fun ms => hP.onBus fun d => hbus d h payload ms

theorem kernelDriverTarget (interface : UInt8) :
    Simulates P (kernelDriverTarget interface)
      ((fun k => (ρ k.1, k.2)) <$> Device.kernelDriverTarget interface) := by
  unfold Device.kernelDriverTarget
  simp only [map_bind, map_pure]
  exact (hP.findInterface _).bind fun _ => hP.openHandle.mapBind fun _ => simulates_pure _

theorem clearHalt (endpoint : UInt8) :
    Simulates P (clearHalt endpoint) (Device.clearHalt endpoint) :=
  hP.openHandle.mapBind fun h => hP.onBus fun d => hP.bus d (.clearHalt h endpoint) rfl rfl rfl

theorem setDefaultTimeout (ms : Int) :
    Simulates P (setDefaultTimeout ms) (Device.setDefaultTimeout ms) :=
  simulates_ite (hP.setTimeout _) (simulates_throw _)

theorem standardRequest (direction : Direction) (recipient : Recipient) (request : UInt8)
    (value index : UInt16) (data : ControlData) :
    Simulates P (standardRequest direction recipient request value index data)
      (Device.standardRequest direction recipient request value index data) := by
  let setup : Setup := ⟨requestType direction .standard recipient, request, value, index⟩
  have hkind : (requestKind setup.requestType == .standard) = true :=
    beq_iff_eq.2 (requestKind_requestType _ _ _)
  exact hP.controlTransfer data none fun d h payload ms =>
    hP.bus d (.controlTransfer h setup payload ms) rfl rfl hkind

theorem readExact (recipient : Recipient) (request : UInt8) (index : UInt16) (length : Nat) :
    Simulates P (readExact recipient request index length)
      (Device.readExact recipient request index length) :=
  (hP.standardRequest _ _ _ _ _ _).bind fun _ => (simulates_liftResult _).bind fun _ =>
    simulates_ite (simulates_throw _) (simulates_pure _)

theorem clearFeature (feature : UInt16) (target : RequestTarget) :
    Simulates P (clearFeature feature target) (Device.clearFeature feature target) := by
  have hsend := (hP.standardRequest .toDevice target.recipient 0x01 feature target.index .none).bind
    fun _ => simulates_pure PUnit.unit
  cases target with
  | endpoint address => exact simulates_ite (hP.clearHalt address) hsend
  | _ => exact hsend

theorem setFeature (feature : UInt16) (target : RequestTarget) :
    Simulates P (setFeature feature target) (Device.setFeature feature target) :=
  (hP.standardRequest _ _ _ _ _ _).bind fun _ => simulates_pure _

theorem getDescriptor (size : Nat) (type index : UInt8) (wIndex : UInt16) :
    Simulates P (getDescriptor size type index wIndex)
      (Device.getDescriptor size type index wIndex) :=
  (hP.standardRequest _ _ _ _ _ _).bind fun _ => simulates_liftResult _

theorem setDescriptor (data : List UInt8) (type index : UInt8) (wIndex : UInt16) :
    Simulates P (setDescriptor data type index wIndex)
      (Device.setDescriptor data type index wIndex) :=
  (hP.standardRequest _ _ _ _ _ _).bind fun _ => simulates_pure _

/-! Strings and what lists tell about a device. -/

omit [Backend σ] [Backend τ] hP in
theorem ofDescriptorResult (r : Except DescriptorError α) :
    Simulates P (ofDescriptorResult r) (Device.ofDescriptorResult r) := by
  cases r with
  | ok a => exact simulates_pure a
  | error e => exact simulates_throw _

theorem langids : Simulates P langids Device.langids :=
  (hP.getDescriptor _ _ _ _).bind fun _ =>
    simulates_ite (simulates_pure _) (ofDescriptorResult _)

theorem string (index : UInt8) (langid : Option UInt16) :
    Simulates P (string index langid) (Device.string index langid) := by
  apply simulates_ite (simulates_pure _)
  have hrest : ∀ id : UInt16, Simulates P _ _ := fun id =>
    (hP.getDescriptor StringDescriptor.maxLength StringDescriptor.typeCode index id).bind
      fun raw => (ofDescriptorResult (StringDescriptor.decode raw)).bind
        fun text => simulates_pure (some (String.ofList text))
  cases langid with
  | some id => exact hrest id
  | none =>
    refine hP.langids.bind fun ids => ?_
    cases ids.head? with
    | some id => exact hrest id
    | none => exact simulates_throw _

theorem manufacturer : Simulates P manufacturer Device.manufacturer :=
  hP.getDevice.mapBind fun _ => hP.string _ _

theorem product : Simulates P product Device.product :=
  hP.getDevice.mapBind fun _ => hP.string _ _

theorem serialNumber : Simulates P serialNumber Device.serialNumber :=
  hP.getDevice.mapBind fun _ => hP.string _ _

omit [Backend σ] [Backend τ] hP in
theorem bestEffort {act : DeviceAction σ (Option String)} {model : DeviceAction τ (Option String)}
    (h : Simulates P act model) : Simulates P (bestEffort act) (Device.bestEffort model) := by
  refine h.attempted.bind fun r => ?_
  cases r with
  | ok text => exact simulates_pure _
  | error e => exact simulates_pure _

theorem summary : Simulates P summary Device.summary :=
  hP.getDevice.mapBind fun _ => (bestEffort hP.manufacturer).bind fun _ =>
    (bestEffort hP.product).bind fun _ => (bestEffort hP.serialNumber).bind fun _ =>
      simulates_pure _

omit [Backend σ] [Backend τ] hP in
theorem findTexts {ρ : Type} {Q : σ → τ → Prop} {c : Cursor σ ρ α} {m : Cursor τ ρ α}
    (h : Cursor.InStep Q c m) (start : ρ) (shown : α → Shown α) (all : Bool)
    (test : Shown α → Bool) :
    Simulates Q (findTexts c start shown all test) (Session.findTexts m start shown all test) :=
  simulates_ite ((h.filter _ _).bind fun _ => simulates_pure _)
    ((h.find _ _).bind fun _ => simulates_pure _)

omit [Backend σ] [Backend τ] hP in
theorem unitReply {act : DeviceAction σ Unit} {model : DeviceAction τ Unit}
    (h : Simulates P act model) : Simulates P (unitReply act) (Session.unitReply model) :=
  h.bind fun _ => simulates_pure _

/-- The device is shown with the number of its handle. -/
theorem info : Simulates P DeviceCall.info.perform
    (Reply.renumbered ρ <$> DeviceCall.info.perform) := by
  simp only [DeviceCall.perform, hP.name, map_bind, map_pure]
  exact hP.getDevice.mapBind fun _ => simulates_pure _

/-- Each other call of a device is in step with itself; resets and control transfers of all kinds
have to be shown to be so. -/
theorem perform (hN : NamedTransfers P) (call : DeviceCall) (hi : call ≠ .info)
    (hr : call = .reset → Simulates P reset Device.reset)
    (hc : ∀ setup data timeout, call = .control setup data timeout →
      Simulates P (Device.controlTransfer setup data timeout)
        (Device.controlTransfer setup data timeout)) :
    Simulates P call.perform call.perform := by
  cases call with
  | info => exact absurd rfl hi
  | summary => exact hP.summary.bind fun _ => simulates_pure _
  | defaultTimeout => exact hP.getDevice.mapBind fun _ => simulates_pure _
  | setDefaultTimeout ms => exact unitReply (hP.setDefaultTimeout ms)
  | setConfiguration value => exact unitReply (hP.setConfiguration value)
  | setAlternate interface alternate => exact unitReply (hP.setAlternate _ alternate)
  | claim interface => exact unitReply (hP.claim _)
  | release interface => exact unitReply (hP.giveBack _)
  | reset => exact unitReply (hr rfl)
  | dispose => exact unitReply hP.dispose
  | write endpoint data interface timeout =>
    exact (write hN endpoint data interface timeout).bind fun _ => simulates_pure _
  | read endpoint length interface timeout =>
    exact (receive hN endpoint length interface timeout).bind fun _ => simulates_pure _
  | control setup data timeout =>
    exact (hc setup data timeout rfl).bind fun _ => simulates_pure _
  | kernelDriverActive interface =>
    exact ((hP.kernelDriverTarget interface).mapBind fun k =>
      hP.onBus fun d => hP.bus d (.kernelDriverActive k.1 k.2) rfl rfl rfl).bind fun _ => simulates_pure _
  | detachKernelDriver interface =>
    exact unitReply ((hP.kernelDriverTarget interface).mapBind fun k =>
      hP.onBus fun d => hP.bus d (.detachKernelDriver k.1 k.2) rfl rfl rfl)
  | attachKernelDriver interface =>
    exact unitReply ((hP.kernelDriverTarget interface).mapBind fun k =>
      hP.onBus fun d => hP.bus d (.attachKernelDriver k.1 k.2) rfl rfl rfl)
  | clearHalt endpoint => exact unitReply (hP.clearHalt endpoint)
  | langids => exact hP.langids.bind fun _ => simulates_pure _
  | manufacturer => exact hP.manufacturer.bind fun _ => simulates_pure _
  | product => exact hP.product.bind fun _ => simulates_pure _
  | serialNumber => exact hP.serialNumber.bind fun _ => simulates_pure _
  | string index langid => exact (hP.string index langid).bind fun _ => simulates_pure _
  | getStatus target =>
    exact ((hP.readExact _ _ _ _).bind fun _ => simulates_pure _).bind fun _ => simulates_pure _
  | clearFeature feature target => exact unitReply (hP.clearFeature feature target)
  | setFeature feature target => exact unitReply (hP.setFeature feature target)
  | getDescriptor size type index wIndex =>
    exact (hP.getDescriptor size type index wIndex).bind fun _ => simulates_pure _
  | setDescriptor data type index wIndex =>
    exact unitReply (hP.setDescriptor data type index wIndex)
  | reportedConfiguration =>
    exact ((hP.readExact _ _ _ _).bind fun _ => simulates_pure _).bind fun _ => simulates_pure _
  | reportedAlternate interface =>
    exact ((hP.readExact _ _ _ _).bind fun _ => simulates_pure _).bind fun _ => simulates_pure _
  | configurations =>
    exact hP.getDevice.mapBind fun d => (hP.onBus fun d' =>
      ((hP.reads d').configurationViews d).forEach (fun _ => simulates_pure _) 0).bind
        fun _ => simulates_pure _
  | tree =>
    exact hP.getDevice.mapBind fun d => (hP.onBus fun d' => (hP.reads d').tree d).bind
      fun _ => simulates_pure _
  | findConfigurations all test =>
    exact hP.getDevice.mapBind fun d => hP.onBus fun d' =>
      findTexts ((hP.reads d').configurationViews d) 0 d.showConfiguration all test

theorem configurationView (index : UInt8) :
    Simulates P (configurationView index) (Device.configurationView index) :=
  hP.getDevice.mapBind fun d => simulates_ite (simulates_throw _)
    ((hP.query (.configurationDescriptor d.id index) rfl).bind
      fun _ => simulates_pure _)

theorem interface (c : ConfigurationView) (index alternate : UInt8) :
    Simulates P (c.interface index alternate) (c.interface index alternate) :=
  simulates_ite (simulates_throw _) (hP.getDevice.mapBind fun d =>
    (hP.query (.interfaceDescriptor d.id index alternate c.index) rfl).bind
      fun _ => simulates_pure _)

theorem endpoint (i : InterfaceView) (index : UInt8) :
    Simulates P (i.endpoint index) (i.endpoint index) :=
  simulates_ite (simulates_throw _) (hP.getDevice.mapBind fun d =>
    (hP.query (.endpointDescriptor d.id index i.index i.alternateIndex
      i.config) rfl).bind fun _ => simulates_pure _)

theorem follow (path : ViewPath) : Simulates P path.follow path.follow := by
  cases path with
  | active =>
    exact (hP.activeConfiguration.bind fun _ => simulates_pure _).bind fun _ =>
      hP.getDevice.mapBind fun _ => simulates_pure _
  | configuration c =>
    exact (hP.configurationView c).bind fun _ => hP.getDevice.mapBind fun _ => simulates_pure _
  | interface c i a =>
    exact (hP.configurationView c).bind fun c => (hP.interface c i a).bind fun _ =>
      hP.getDevice.mapBind fun _ => simulates_pure _
  | endpoint c i a e =>
    exact (hP.configurationView c).bind fun c => (hP.interface c i a).bind fun i =>
      (hP.endpoint i e).bind fun _ => hP.getDevice.mapBind fun _ => simulates_pure _

/-- Each call of a view is in step with itself; a transfer has to be shown to be so. -/
theorem perform? (call : ViewCall) (view : View) (hR : call.movesData → ResolvedTransfers P)
    {act : DeviceAction σ Reply} {model : DeviceAction τ Reply}
    (ha : call.perform? view = some act) (hm : call.perform? view = some model) :
    Simulates P act model := by
  cases call <;> cases view <;> cases ha <;> cases hm
  case select.configuration c => exact unitReply (hP.setConfiguration _)
  case select.interface i => exact unitReply (hP.setAlternate _ _)
  case children.configuration c =>
    exact hP.getDevice.mapBind fun d => (hP.onBus fun d' =>
      (hP.reads d').walk.forEach (fun _ => simulates_pure _) _).bind fun _ => simulates_pure _
  case children.interface i =>
    exact hP.getDevice.mapBind fun d => (hP.onBus fun d' =>
      ((hP.reads d').endpoints d.id i).forEach (fun _ => simulates_pure _) 0).bind fun _ => simulates_pure _
  case write.endpoint data timeout e =>
    exact ((hR rfl _ _ _ _).bind fun _ => simulates_liftResult _).bind
      fun _ => simulates_pure _
  case read.endpoint length timeout e =>
    exact ((hR rfl _ _ _ _).bind fun _ => simulates_liftResult _).bind
      fun _ => simulates_pure _
  case clearHalt.endpoint e => exact unitReply (hP.clearHalt _)
  case findInterfaces.configuration all test c =>
    exact hP.getDevice.mapBind fun d => hP.onBus fun d' => findTexts (hP.reads d').walk _ _ all test
  case findEndpoints.interface all test i =>
    exact hP.getDevice.mapBind fun d => hP.onBus fun d' =>
      findTexts ((hP.reads d').endpoints d.id i) 0 _ all test

end Whole

namespace InStep

variable {ρ : HandleId → HandleId} {P : Attachment σ → Attachment τ → Prop} (hP : InStep ρ P)

include hP

theorem plain : Plain ρ P := ⟨hP.name, hP.device, fun d {_} op hq _ _ => hP.bus d op hq⟩

theorem onBus {act : Action σ α} {model : Action τ α} (h : ∀ d, Simulates (On ρ P d) act model) :
    Simulates P (onBus act) (onBus model) := hP.plain.onBus h

theorem setConfiguration (value : Option UInt8) :
    Simulates P (setConfiguration value) (Device.setConfiguration value) :=
  hP.plain.setConfiguration hP.openHandle (fun h _ value =>
    (hP.onBus fun d => hP.bus d (.setConfiguration h value) rfl).bind fun _ =>
      hP.remember _ ⟨fun _ _ => rfl, fun _ => rfl⟩) value

theorem activeConfiguration : Simulates P activeConfiguration Device.activeConfiguration :=
  hP.plain.activeConfiguration hP.openHandle fun _ => hP.remember _ ⟨fun _ _ => rfl, fun _ => rfl⟩

theorem selectAlternate (number alternate : UInt8) :
    Simulates P (selectAlternate number alternate) (Device.selectAlternate number alternate) :=
  Simulates.bind (hP.acquire number (max · 1) fun n => Nat.le_max_right n 1) fun _ =>
    hP.openHandle.mapBind fun h =>
      (hP.onBus fun d => hP.bus d (.setAlternate h number alternate) rfl).bind fun _ =>
        hP.remember _ ⟨fun _ _ => rfl, fun _ => rfl⟩

theorem endpointType (address : UInt8) (l : InterfaceLocation) :
    Simulates P (endpointType address l) (Device.endpointType address l) :=
  hP.plain.endpointType (fun _ _ => hP.remember _ ⟨fun _ _ => rfl, fun _ => rfl⟩) address l

theorem whole : Whole ρ P where
  toPlain := hP.plain
  setTimeout := hP.setTimeout
  openHandle := hP.openHandle
  acquire := hP.acquire
  release := hP.release
  dispose := hP.dispose
  setConfiguration := hP.setConfiguration
  activeConfiguration := hP.activeConfiguration
  selectAlternate := hP.selectAlternate

theorem transfer (hT : TransfersInStep ρ P) (endpoint : UInt8) (payload : Payload)
    (target : InterfaceTarget) (timeout : Option Nat) :
    Simulates P (transfer endpoint payload target timeout)
      (Device.transfer endpoint payload target timeout) :=
  hP.whole.transfer hP.endpointType hT endpoint payload target timeout

theorem controlTransfer (setup : Setup) (data : ControlData) (timeout : Option Nat) :
    Simulates P (controlTransfer setup data timeout)
      (Device.controlTransfer setup data timeout) :=
  hP.whole.controlTransfer data timeout fun d h payload ms =>
    hP.bus d (.controlTransfer h setup payload ms) rfl

/-- Each call of a view is in step with itself. -/
theorem perform? (hT : TransfersInStep ρ P) (call : ViewCall) (view : View)
    {act : DeviceAction σ Reply} {model : DeviceAction τ Reply}
    (ha : call.perform? view = some act) (hm : call.perform? view = some model) :
    Simulates P act model :=
  hP.whole.perform? call view (fun _ _ _ _ _ => hP.transfer hT _ _ _ _) ha hm

end InStep

/-! Where both backends number handles alike, what returns a handle is in step as well. -/

section

variable {P : Attachment σ → Attachment τ → Prop}

theorem InStep.prepare (hP : InStep .same P) (endpoint : UInt8) (target : InterfaceTarget)
    (timeout : Option Nat) :
    Simulates P (prepare endpoint target timeout) (Device.prepare endpoint target timeout) :=
  (simulates_map_iff fun _ => rfl).1 (hP.whole.prepare hP.endpointType endpoint target timeout)

/-- Each call of a device is in step with itself; resets and control transfers of all kinds have to
be shown to be so. -/
theorem Whole.call (hP : Whole .same P) (hN : NamedTransfers P) (call : DeviceCall)
    (hr : call = .reset → Simulates P reset Device.reset)
    (hc : ∀ setup data timeout, call = .control setup data timeout →
      Simulates P (Device.controlTransfer setup data timeout)
        (Device.controlTransfer setup data timeout)) :
    Simulates P call.perform call.perform := by
  by_cases hi : call = .info
  · rw [hi]
    exact (simulates_map_iff Reply.renumbered_same).1 hP.info
  · exact hP.perform hN call hi hr hc

/-- Each call of a device is in step with itself; a reset has to be shown to be so. -/
theorem InStep.call (hP : InStep .same P) (hT : TransfersInStep .same P) (call : DeviceCall)
    (hr : call = .reset → Simulates P reset Device.reset) :
    Simulates P call.perform call.perform :=
  hP.whole.call (fun _ _ _ _ => hP.transfer hT _ _ _ _) call hr fun _ _ _ _ =>
    hP.controlTransfer _ _ _

end

end Device

end SerialBus
