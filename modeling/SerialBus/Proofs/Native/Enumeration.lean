import Mathlib.Data.List.Induction
import SerialBus.Proofs.Native.Library
import SerialBus.Proofs.Native.Registry
import SerialBus.Proofs.Watched

/-! What the numbers of devices and handles mean in a run of the backend on libusb, in which the
library does what it likes: devices come and go, and anything may fail. -/
namespace SerialBus.Native

open SerialBus.Action Session

/-- A successful enumeration: the devices of the library, and the numbers that were listed. -/
structure Listing (D : Type) where
  devices : List D
  ids : List DeviceId

def Listing.entries {D : Type} (l : Listing D) : List (D × DeviceId) := l.devices.zip l.ids

/-- What the calls of a run and their results tell, the earliest first. -/
structure Record (D : Type) where
  listings : List (Listing D) := []
  /-- The handles that were opened, each with the device that it was opened for. -/
  openings : List (HandleId × D) := []
  /-- The handles that were closed. -/
  closings : List HandleId := []

namespace Record

variable {L D H : Type}

/-- What the last successful enumeration has listed, nothing if there was none. -/
def current (r : Record D) : List (D × DeviceId) :=
  (r.listings.getLast?.map Listing.entries).getD []

/-- A handle is open from when it was opened until it is closed. -/
def IsOpen (r : Record D) (h : HandleId) : Prop :=
  h ∈ r.openings.map Prod.fst ∧ h ∉ r.closings

/-- No enumeration has found two devices at the same place. -/
def Distinct [Located D] (r : Record D) : Prop :=
  ∀ l ∈ r.listings,
    (l.devices.map fun d => (Located.bus d, Located.address d, Located.port d)).Nodup

variable [Located D] [Libusb L D H]

/-- The record with one more call. -/
def add (r : Record D) (e : Sent (Client L D H)) : Record D :=
  match e.call, outcome e.call.perform e.met with
  | .devices, .ok (.ids ids) =>
    match Libusb.devices e.met.library with
    | .ok devices _ => { r with listings := r.listings ++ [⟨devices, ids⟩] }
    | .error _ _ => r
  | .openDevice id, .ok (.number n) =>
    match r.current.find? fun e => e.2 = id with
    | some e => { r with openings := r.openings ++ [(⟨n⟩, e.1)] }
    | none => r
  | .closeDevice h, .ok _ => { r with closings := r.closings ++ [h] }
  | _, _ => r

def ofCalls (past : List (Sent (Client L D H))) : Record D := past.foldl add {}

end Record

namespace Client

variable {L D H V : Type}

/-- What can happen to a client: a call of the backend, or any change of the library. -/
inductive Act (L : Type)
  | call (c : BackendCall)
  | become (library : L)

/-- The first state of a backend on a library. -/
def fresh (library : L) : Client L D H := { library, context := {} }

section

variable [Located D] [Libusb L D H]

def next (b : Client L D H) : Act L → Client L D H
  | .call c => after c.perform b
  | .become library => { b with library }

def run (b : Client L D H) (acts : List (Act L)) : Client L D H := acts.foldl next b

/-- The calls of a run, each with the client that it met. -/
def history (b : Client L D H) : List (Act L) → List (Sent (Client L D H))
  | [] => []
  | .call c :: rest => ⟨c, b⟩ :: history (b.next (.call c)) rest
  | .become library :: rest => history (b.next (.become library)) rest

theorem history_append (b : Client L D H) (acts more : List (Act L)) :
    history b (acts ++ more) = history b acts ++ history (b.run acts) more := by
  induction acts generalizing b with
  | nil => rfl
  | cons act rest ih =>
    cases act with
    | call c => simp [history, ih, run]
    | become library => simp [history, ih, run]

end

section

variable [Libusb L D H] {b : Client L D H}

theorem start_eq {library : L} (h : Libusb.init b.library = .ok () library) :
    start b = .ok () (fresh library) :=
  bind_eq_of_ok _ (ask_of_ok h)

end

/-- What the parts of a client have to do with the calls that led to it. -/
structure Accounted [Located D] (seen : D → V) (view : H → V) (r : Record D)
    (b : Client L D H) : Prop where
  numbered : b.context.Numbered
  listed : ∀ l ∈ r.listings, l.ids.length = l.devices.length ∧ l.ids.Nodup
  recorded : ∀ l ∈ r.listings, ∀ e ∈ l.entries, b.context.number? (place e.1) = some e.2
  known : ∀ id d, b.context.known.get? id = some d ↔ (d, id) ∈ r.current
  handles : ∀ h v, (b.context.handles.get? h).map view = some v ↔
    (∃ d, (h, d) ∈ r.openings ∧ seen d = v) ∧ h ∉ r.closings
  increasing : r.openings.Pairwise fun e f => e.1.number < f.1.number
  opened : ∀ e ∈ r.openings, e.1.number < b.context.nextHandle
  closed : ∀ h ∈ r.closings, h.number < b.context.nextHandle

section

variable [Located D] {seen : D → V} {view : H → V} {r : Record D} {b c : Client L D H}

theorem accounted_fresh (library : L) :
    Accounted seen view {} (fresh library : Client L D H) where
  numbered := Context.numbered_empty
  listed := nofun
  recorded := nofun
  known id d := by simp [fresh, Record.current, EmptyCollection.emptyCollection]
  handles h v := by simp [fresh, EmptyCollection.emptyCollection]
  increasing := .nil
  opened := nofun
  closed := nofun

theorem Accounted.steady (h : Accounted seen view r b) (hs : Steady view b c) :
    Accounted seen view r c := by
  have hnumber : c.context.number? = b.context.number? := by
    funext p
    rw [Context.number?, hs.positions, Context.number?]
  constructor
  · constructor
    · rw [hnumber]
      exact h.numbered.injective
    · rw [hnumber, hs.lastId]
      exact h.numbered.le_lastId
  · exact h.listed
  · rw [hnumber]
    exact h.recorded
  · rw [hs.known]
    exact h.known
  · intro i v
    rw [hs.handles]
    exact h.handles i v
  · exact h.increasing
  · rw [hs.nextHandle]
    exact h.opened
  · rw [hs.nextHandle]
    exact h.closed

/-- The device of a number that is known is the one that was listed under it. -/
theorem Accounted.find?_current (h : Accounted seen view r b) {id : DeviceId} {d : D}
    (hd : b.context.known.get? id = some d) :
    r.current.find? (fun e => e.2 = id) = some (d, id) := by
  have hmem : (d, id) ∈ r.current := (h.known id d).1 hd
  cases hfind : r.current.find? (fun e => e.2 = id) with
  | none => simpa using List.find?_eq_none.1 hfind _ hmem
  | some e =>
    have hid : e.2 = id := by simpa using List.find?_some hfind
    have he : (e.1, id) ∈ r.current := hid ▸ List.mem_of_find?_eq_some hfind
    have hsame : some e.1 = some d := ((h.known id e.1).2 he).symm.trans hd
    rw [← hid, ← Option.some.inj hsame]

/-- A successful enumeration. -/
theorem Accounted.enumerated (h : Accounted seen view r b) (library : L) {devices : List D}
    (hplaces : (devices.map place).Nodup) :
    let listed := Context.registerAll { b.context with known := ∅ } devices
    Accounted seen view { r with listings := r.listings ++ [⟨devices, listed.2⟩] }
      { library, context := listed.1 } := by
  intro listed
  have hbefore : ({ b.context with known := ∅ } : Context D H).Numbered :=
    ⟨h.numbered.injective, h.numbered.le_lastId⟩
  have hnodup : listed.2.Nodup := Context.nodup_registerAll hbefore hplaces
  have hhandles : listed.1.handles = b.context.handles := Context.handles_registerAll
  have hnext : listed.1.nextHandle = b.context.nextHandle := Context.nextHandle_registerAll
  constructor
  · exact hbefore.registerAll devices
  · intro l hl
    rcases List.mem_append.1 hl with hl | hl
    · exact h.listed l hl
    · rw [List.mem_singleton.1 hl]
      exact ⟨Context.length_registerAll, hnodup⟩
  · intro l hl e he
    rcases List.mem_append.1 hl with hl | hl
    · exact Context.number?_registerAll (h.recorded l hl e he)
    · rw [List.mem_singleton.1 hl] at he
      exact Context.number?_of_mem_registerAll he
  · intro id d
    rw [Context.get?_known_registerAll hnodup]
    simp [Record.current, Listing.entries, listed, EmptyCollection.emptyCollection]
  · rw [hhandles]
    exact h.handles
  · exact h.increasing
  · rw [hnext]
    exact h.opened
  · rw [hnext]
    exact h.closed

/-- A device that is opened gets a handle that no device had before. -/
theorem Accounted.openedNext (h : Accounted seen view r b) (library : L) {d : D} {s : H}
    (hs : view s = seen d) :
    Accounted seen view { r with openings := r.openings ++ [(⟨b.context.nextHandle⟩, d)] }
      { library, context := { b.context with
        handles := b.context.handles.insert ⟨b.context.nextHandle⟩ s
        nextHandle := b.context.nextHandle + 1 } } := by
  constructor
  · exact ⟨h.numbered.injective, h.numbered.le_lastId⟩
  · exact h.listed
  · exact h.recorded
  · exact h.known
  · intro i v
    by_cases hi : (⟨b.context.nextHandle⟩ : HandleId) = i
    · subst hi
      have hnot : ∀ d', (⟨b.context.nextHandle⟩, d') ∉ r.openings := fun d' hmem =>
        Nat.lt_irrefl _ (h.opened _ hmem)
      have hopen : ⟨b.context.nextHandle⟩ ∉ r.closings := fun hmem =>
        Nat.lt_irrefl _ (h.closed _ hmem)
      simp [hnot, hopen, hs]
    · simp only [Table.get?_insert_of_ne hi]
      rw [h.handles]
      simp [Ne.symm hi]
  · rw [List.pairwise_append]
    refine ⟨h.increasing, List.pairwise_singleton _ _, fun f hf g hg => ?_⟩
    rw [List.mem_singleton.1 hg]
    exact h.opened f hf
  · intro f hf
    rcases List.mem_append.1 hf with hf | hf
    · exact Nat.lt_succ_of_lt (h.opened f hf)
    · rw [List.mem_singleton.1 hf]
      exact Nat.lt_succ_self _
  · intro i hi
    exact Nat.lt_succ_of_lt (h.closed i hi)

/-- A handle that is closed is open no more. -/
theorem Accounted.closedHandle (h : Accounted seen view r b) (library : L) {i : HandleId} {s : H}
    (hs : b.context.handles.get? i = some s) :
    Accounted seen view { r with closings := r.closings ++ [i] }
      { library, context := { b.context with handles := b.context.handles.erase i } } := by
  obtain ⟨⟨d, hopened, -⟩, -⟩ := (h.handles i (view s)).1 (by rw [hs, Option.map_some])
  constructor
  · exact ⟨h.numbered.injective, h.numbered.le_lastId⟩
  · exact h.listed
  · exact h.recorded
  · exact h.known
  · intro j v
    by_cases hj : i = j
    · subst hj
      simp
    · simp only [Table.get?_erase_of_ne hj]
      rw [h.handles]
      simp [Ne.symm hj]
  · exact h.increasing
  · exact h.opened
  · intro j hj
    rcases List.mem_append.1 hj with hj | hj
    · exact h.closed j hj
    · rw [List.mem_singleton.1 hj]
      exact h.opened _ hopened

variable [Libusb L D H]

theorem enumerate_of_ok {library : L} {devices : List D}
    (h : Libusb.devices b.library = .ok devices library) :
    let listed := Context.registerAll { b.context with known := ∅ } devices
    enumerate b = .ok listed.2 { library, context := listed.1 } :=
  bind_eq_of_ok _ (ask_of_ok h)

theorem enumerate_of_error {library : L} {e : Failure}
    (h : Libusb.devices b.library = .error e library) :
    enumerate b = .error e.toError { b with library } :=
  bind_eq_of_error _ (ask_of_error h)

theorem add_of_error {e : Sent (Client L D H)} {err : UsbError}
    (h : outcome e.call.perform e.met = .error err) : r.add e = r := by
  unfold Record.add
  split <;> simp_all

/-- A call that fails is of no account, if it changes nothing that lasts. -/
theorem Accounted.failed {call : BackendCall} {err : UsbError} (h : Accounted seen view r b)
    (hp : call.perform b = .error err c) (hs : c.context = b.context) :
    Accounted seen view (r.add ⟨call, b⟩) (after call.perform b) := by
  obtain ⟨ho, ha⟩ := eq_error_iff.1 hp
  rw [ha, add_of_error ho]
  exact h.steady (steady_of_context_eq hs)

theorem Accounted.enumerates (h : Accounted seen view r b)
    (hdistinct : (r.add ⟨.devices, b⟩).Distinct) :
    Accounted seen view (r.add ⟨.devices, b⟩) (after BackendCall.devices.perform b) := by
  cases hds : Libusb.devices b.library with
  | error e library => exact h.failed (bind_eq_of_error _ (enumerate_of_error hds)) rfl
  | ok devices library =>
    have hperform : BackendCall.devices.perform b = _ := bind_eq_of_ok _ (enumerate_of_ok hds)
    obtain ⟨ho, ha⟩ := eq_ok_iff.1 hperform
    let listed := Context.registerAll { b.context with known := ∅ } devices
    have hadd : r.add ⟨.devices, b⟩ =
        { r with listings := r.listings ++ [⟨devices, listed.2⟩] } := by
      simp only [Record.add, ho, hds]
      rfl
    rw [hadd] at hdistinct ⊢
    rw [ha]
    exact h.enumerated library (hdistinct _ (List.mem_append_right _ (List.mem_singleton_self _)))

theorem Accounted.opens (h : Accounted seen view r b) (hk : Keeping L seen view) (id : DeviceId) :
    Accounted seen view (r.add ⟨.openDevice id, b⟩)
      (after (BackendCall.openDevice id).perform b) := by
  have hwith := perform_eq_withDevice (L := L) (D := D) (H := H) (c := .openDevice id) rfl
  cases hd : b.context.known.get? id with
  | none =>
    exact h.failed ((congrFun hwith b).trans (withDevice_of_none _ hd)) rfl
  | some d =>
    have hfound := (congrFun hwith b).trans (withDevice_of_some _ hd)
    cases hs : Libusb.openDevice d b.library with
    | error e library =>
      exact h.failed (hfound.trans (bind_eq_of_error _ (openHandle_of_error hs))) rfl
    | ok s library =>
      obtain ⟨ho, ha⟩ := eq_ok_iff.1 (hfound.trans (bind_eq_of_ok _ (openHandle_of_ok hs)))
      have hadd : r.add ⟨.openDevice id, b⟩ =
          { r with openings := r.openings ++ [(⟨b.context.nextHandle⟩, d)] } := by
        simp only [Record.add, ho, h.find?_current hd]
      rw [hadd, ha]
      exact h.openedNext library (hk.opens hs)

theorem Accounted.closes (h : Accounted seen view r b) (i : HandleId) :
    Accounted seen view (r.add ⟨.closeDevice i, b⟩)
      (after (BackendCall.closeDevice i).perform b) := by
  cases hs : b.context.handles.get? i with
  | none => exact h.failed (perform_of_closed rfl hs) rfl
  | some s =>
    have hperform : (BackendCall.closeDevice i).perform b = _ :=
      bind_eq_of_ok _ (closeDevice_of_some hs)
    obtain ⟨ho, ha⟩ := eq_ok_iff.1 hperform
    have hadd : r.add ⟨.closeDevice i, b⟩ = { r with closings := r.closings ++ [i] } := by
      simp only [Record.add, ho]
    rw [hadd, ha]
    exact h.closedHandle _ hs

/-- One call. -/
theorem Accounted.call (h : Accounted seen view r b) (hk : Keeping L seen view) (call : BackendCall)
    (hdistinct : (r.add ⟨call, b⟩).Distinct) :
    Accounted seen view (r.add ⟨call, b⟩) (after call.perform b) := by
  cases call with
  | devices => exact h.enumerates hdistinct
  | openDevice id => exact h.opens hk id
  | closeDevice i => exact h.closes i
  | _ =>
    refine h.steady (steady_perform hk ?_ ?_ ?_ b)
    · exact nofun
    · exact nofun
    · exact nofun

theorem listings_add (r : Record D) (e : Sent (Client L D H)) :
    r.listings ⊆ (r.add e).listings := by
  unfold Record.add
  split
  · split
    · exact List.subset_append_left _ _
    · exact List.Subset.refl _
  · split <;> exact List.Subset.refl _
  · exact List.Subset.refl _
  · exact List.Subset.refl _

theorem accounted_run (hk : Keeping L seen view) (library : L) (acts : List (Act L))
    (hdistinct : (Record.ofCalls (history (fresh library : Client L D H) acts)).Distinct) :
    Accounted seen view (Record.ofCalls (history (fresh library : Client L D H) acts))
      ((fresh library).run acts) := by
  induction acts using List.reverseRecOn with
  | nil => exact accounted_fresh library
  | append_singleton acts act ih =>
    have hrun : (fresh library : Client L D H).run (acts ++ [act]) =
        ((fresh library).run acts).next act := by
      simp [run]
    rw [history_append] at hdistinct ⊢
    rw [hrun]
    cases act with
    | call c =>
      simp only [history, Record.ofCalls, List.foldl_append, List.foldl_cons, List.foldl_nil]
        at hdistinct ⊢
      exact (ih fun l hl => hdistinct l (listings_add _ _ hl)).call hk c hdistinct
    | become library =>
      simp only [history, List.append_nil] at hdistinct ⊢
      exact (ih hdistinct).steady (steady_of_context_eq rfl)

end

/-- What the numbers of devices and handles mean after the calls of a record. -/
structure Identifies [Located D] [Libusb L D H] (r : Record D) (b : Client L D H) : Prop where
  /-- Each enumeration lists one number for each device, in their order, and no number twice. -/
  inOrder : ∀ l ∈ r.listings, l.ids.length = l.devices.length ∧ l.ids.Nodup
  /-- The same place has the same number in all enumerations, and different places never do. -/
  stable : ∀ l ∈ r.listings, ∀ m ∈ r.listings, ∀ e ∈ l.entries, ∀ f ∈ m.entries,
    Located.bus e.1 = Located.bus f.1 ∧ Located.address e.1 = Located.address f.1 ∧
      Located.port e.1 = Located.port f.1 ↔ e.2 = f.2
  /-- An enumeration succeeds if the library lists its devices. -/
  listing : ∀ devices library, Libusb.devices b.library = .ok devices library →
    ∃ ids context, ids.length = devices.length ∧ Backend.devices b = .ok ids { library, context }
  /-- An enumeration that fails changes nothing but the library. -/
  failing : ∀ e library, Libusb.devices b.library = .error e library →
    Backend.devices b = .error e.toError { b with library }
  /-- A number of the last enumeration means the device that was listed under it: it is this device
  that each call with the number asks the library about. -/
  found : ∀ e ∈ r.current, ∀ c : BackendCall, c.device? = some e.2 →
    c.perform b = onDevice e.1 c b
  /-- The descriptor under such a number is what the library tells of the device, with its place. -/
  described : ∀ e ∈ r.current,
    Backend.deviceDescriptor e.2 b = match Libusb.deviceDescriptor e.1 b.library with
      | .ok told library => .ok {
          usbVersion := told.usbVersion.toBcd
          deviceClass := told.deviceClass
          deviceSubclass := told.deviceSubclass
          deviceProtocol := told.deviceProtocol
          maxPacketSize0 := told.maxPacketSize0
          vendorId := told.vendorId
          productId := told.productId
          deviceVersion := told.deviceVersion.toBcd
          manufacturerIndex := told.manufacturerIndex?.getD 0
          productIndex := told.productIndex?.getD 0
          serialNumberIndex := told.serialNumberIndex?.getD 0
          numConfigurations := told.numConfigurations
          bus := some (Located.bus e.1)
          address := some (Located.address e.1)
          portNumber := some (Located.port e.1) } { b with library }
      | .error f library => .error f.toError { b with library }
  /-- The descriptors below it are those that the library tells of the device, by their indices. -/
  read : ∀ e ∈ r.current, ∀ config told l tree library,
    Libusb.deviceDescriptor e.1 b.library = .ok told l → config < told.numConfigurations →
    Libusb.configDescriptor e.1 config l = .ok tree library →
      Backend.configurationDescriptor e.2 config b = .ok tree.descriptor { b with library } ∧
      ∀ (interface alternate : UInt8) alternates a,
        tree.interfaces[interface.toNat]? = some alternates →
        alternates[alternate.toNat]? = some a →
          Backend.interfaceDescriptor e.2 interface alternate config b =
            .ok a.descriptor { b with library } ∧
          ∀ (endpoint : UInt8) p, a.endpoints[endpoint.toNat]? = some p →
            Backend.endpointDescriptor e.2 endpoint interface alternate config b =
              .ok p.descriptor { b with library }
  /-- The device is opened under the next number. -/
  opened : ∀ e ∈ r.current,
    Backend.openDevice e.2 b = match Libusb.openDevice e.1 b.library with
      | .ok s library => .ok ⟨b.context.nextHandle⟩ { library, context := { b.context with
          handles := b.context.handles.insert ⟨b.context.nextHandle⟩ s
          nextHandle := b.context.nextHandle + 1 } }
      | .error f library => .error f.toError { b with library }
  /-- All other numbers mean nothing, whatever they meant before. -/
  absent : ∀ (c : BackendCall) (id : DeviceId), c.device? = some id →
    id ∉ r.current.map Prod.snd → c.perform b = .error (.transport .noDevice (some (-4))) b
  /-- What is asked on a handle that is open, the library answers on what it has opened. -/
  valid : ∀ h, r.IsOpen h → ∃ s, b.context.handles.get? h = some s ∧
    Backend.closeDevice h b = .ok () { library := Libusb.closeDevice s b.library, context :=
      { b.context with handles := b.context.handles.erase h } } ∧
    ∀ (c : BackendCall) (q : Asked), c.asked? = some q → q.handle = h → c.perform b = b.answer q s
  /-- All other handles are of no use. -/
  stale : ∀ h, ¬ r.IsOpen h → ∀ c : BackendCall, c.handle? = some h →
    c.perform b = .error (.transport .invalidParam (some (-2))) b
  /-- An open handle stays one for the device that it was opened for. -/
  handles : ∀ {V : Type} {seen : D → V} {view : H → V}, Keeping L seen view → ∀ h v,
    (b.context.handles.get? h).map view = some v ↔
      (∃ d, (h, d) ∈ r.openings ∧ seen d = v) ∧ h ∉ r.closings
  /-- No handle is given out twice. -/
  unused : r.openings.Pairwise fun e f => e.1.number < f.1.number
  /-- Enumerations leave the handles, and what is called on them, as they are. -/
  undisturbed : (after Backend.devices b).context.handles = b.context.handles ∧
    (after Backend.devices b).context.nextHandle = b.context.nextHandle ∧
    ∀ c : BackendCall, c.device? = none → c ≠ .devices →
      let c₀ : Client L D H := { b with library := (after Backend.devices b).library }
      outcome c.perform (after Backend.devices b) = outcome c.perform c₀ ∧
        (after c.perform (after Backend.devices b)).library = (after c.perform c₀).library ∧
        (after c.perform (after Backend.devices b)).context.handles =
          (after c.perform c₀).context.handles

section

variable [Located D] [Libusb L D H] {r : Record D} {b : Client L D H}

theorem handles_enumerate (b : Client L D H) :
    (after enumerate b).context.handles = b.context.handles ∧
      (after enumerate b).context.nextHandle = b.context.nextHandle := by
  cases hds : Libusb.devices b.library with
  | error e library =>
    rw [(eq_error_iff.1 (enumerate_of_error hds)).2]
    exact ⟨rfl, rfl⟩
  | ok devices library =>
    rw [(eq_ok_iff.1 (enumerate_of_ok hds)).2]
    exact ⟨Context.handles_registerAll, Context.nextHandle_registerAll⟩

/-- In every run that finds no two devices at one place, the numbers of devices stay with their
places, and those of handles are never given out again. -/
theorem identifies_run (library : L) (acts : List (Act L))
    (hdistinct : (Record.ofCalls (history (fresh library : Client L D H) acts)).Distinct) :
    Identifies (Record.ofCalls (history (fresh library : Client L D H) acts))
      ((fresh library).run acts) := by
  have h := accounted_run keeping_unit library acts hdistinct
  generalize hr : Record.ofCalls (history (fresh library : Client L D H) acts) = r at h ⊢
  generalize hb : (fresh library : Client L D H).run acts = b at h ⊢
  have hknown : ∀ e ∈ r.current, b.context.known.get? e.2 = some e.1 := fun e he =>
    (h.known e.2 e.1).2 he
  have hopen : ∀ i, r.IsOpen i ↔ ∃ s, b.context.handles.get? i = some s := by
    intro i
    have hunit := h.handles i ()
    simp only [Option.map_eq_some_iff, and_true] at hunit
    rw [hunit]
    simp [Record.IsOpen]
  constructor
  case inOrder => exact h.listed
  case stable =>
    intro l hl m hm e he f hf
    have hnumber := h.recorded l hl e he
    have hother := h.recorded m hm f hf
    rw [← place_eq_iff]
    constructor
    · intro hplace
      rw [hplace, hother] at hnumber
      exact (Option.some.inj hnumber).symm
    · intro hid
      rw [hid] at hnumber
      exact h.numbered.injective hnumber hother
  case listing =>
    intro devices library hds
    exact ⟨_, _, Context.length_registerAll, enumerate_of_ok hds⟩
  case failing => exact fun e library hds => enumerate_of_error hds
  case found =>
    intro e he c hc
    rw [perform_eq_withDevice hc]
    exact withDevice_of_some _ (hknown e he)
  case described =>
    intro e he
    have hfound : Backend.deviceDescriptor e.2 b = describe e.1 b :=
      withDevice_of_some _ (hknown e he)
    rw [hfound]
    simp only [describe, ask, bind, EStateM.bind]
    cases Libusb.deviceDescriptor e.1 b.library <;> rfl
  case read =>
    intro e he config told l tree library hdevice hlt htree
    have hconfig := configurationAt_of_ok hdevice hlt htree
    refine ⟨?_, fun interface alternate alternates a hi ha => ⟨?_, fun endpoint p hp => ?_⟩⟩
    · exact (withDevice_of_some _ (hknown e he)).trans (bind_eq_of_ok _ hconfig)
    · have hfound := alternateAt_of_some hconfig hi ha
      exact (withDevice_of_some _ (hknown e he)).trans (bind_eq_of_ok _ hfound)
    · have hfound := endpointAt_of_some (alternateAt_of_some hconfig hi ha) hp
      exact (withDevice_of_some _ (hknown e he)).trans (bind_eq_of_ok _ hfound)
  case opened =>
    intro e he
    have hfound : Backend.openDevice e.2 b = openHandle e.1 b := withDevice_of_some _ (hknown e he)
    rw [hfound]
    cases hs : Libusb.openDevice e.1 b.library with
    | ok s library => exact openHandle_of_ok hs
    | error f library => exact openHandle_of_error hs
  case absent =>
    intro c id hc hid
    rw [perform_eq_withDevice hc]
    apply withDevice_of_none
    cases hd : b.context.known.get? id with
    | none => rfl
    | some d => exact absurd (List.mem_map.2 ⟨_, (h.known id d).1 hd, rfl⟩) hid
  case valid =>
    intro i hi
    obtain ⟨s, hs⟩ := (hopen i).1 hi
    refine ⟨s, hs, closeDevice_of_some hs, fun c q hq hqi => ?_⟩
    exact perform_of_open hq (hqi ▸ hs)
  case stale =>
    intro i hi c hc
    apply perform_of_closed hc
    exact Option.eq_none_iff_forall_ne_some.2 fun s hs => hi ((hopen i).2 ⟨s, hs⟩)
  case handles =>
    intro V seen view hk
    subst hr hb
    exact (accounted_run hk library acts hdistinct).handles
  case unused => exact h.increasing
  case undisturbed =>
    obtain ⟨hhandles, hnext⟩ := handles_enumerate b
    exact ⟨hhandles, hnext, fun c hc hne => perform_congr hc hne rfl hhandles⟩

end

/-- Two buses have a device at the address 1 and the port 1. The one on the second bus is replaced,
and an enumeration in between fails: the place keeps its number, under which the new device is
described, and the handle that was opened on the old one stays its handle. -/
theorem identifies_run_replaced :
    let first : Device := { bus := 1, vendorId := 5 }
    let second : Device := { bus := 2, vendorId := 6 }
    let third : Device := { bus := 3, vendorId := 7 }
    let other : Device := { bus := 2, vendorId := 8 }
    let acts : List (Act Library) :=
      [.become { attached := [first, second] }, .call .devices, .call (.openDevice ⟨2⟩),
        .become { failures := Table.ofList [(.getDeviceList, -1)] }, .call .devices,
        .become { attached := [third, other] }, .call .devices]
    let b : Bus := (fresh {}).run acts
    let told : DeviceDescriptor := { address := some 1, portNumber := some 1 }
    (outcome (Backend.deviceDescriptor ⟨2⟩) b =
        .ok { told with vendorId := 8, bus := some 2 } ∧
      outcome (Backend.deviceDescriptor ⟨3⟩) b =
        .ok { told with vendorId := 7, bus := some 3 }) ∧
      (BackendCall.openDevice ⟨1⟩).perform b = .error (.transport .noDevice (some (-4))) b ∧
      (b.context.handles.get? ⟨1⟩).map Handle.device = some second := by
  intro first second third other acts b told
  have hdistinct : (Record.ofCalls (history (fresh {} : Bus) acts)).Distinct := by
    unfold Record.Distinct
    decide +kernel
  have h := identifies_run {} acts hdistinct
  generalize hr : Record.ofCalls (history (fresh {} : Bus) acts) = r at h
  have hother : (other, (⟨2⟩ : DeviceId)) ∈ r.current := by
    rw [← hr]
    decide +kernel
  have hthird : (third, (⟨3⟩ : DeviceId)) ∈ r.current := by
    rw [← hr]
    decide +kernel
  have hgone : (⟨1⟩ : DeviceId) ∉ r.current.map Prod.snd := by
    rw [← hr]
    decide +kernel
  have hopened : ((⟨1⟩ : HandleId), second) ∈ r.openings ∧ ⟨1⟩ ∉ r.closings := by
    rw [← hr]
    decide +kernel
  have hlibrary : b.library = { attached := [third, other] } := by decide +kernel
  refine ⟨⟨?_, ?_⟩, h.absent _ ⟨1⟩ rfl hgone, ?_⟩
  · rw [outcome, h.described _ hother, hlibrary]
    decide +kernel
  · rw [outcome, h.described _ hthird, hlibrary]
    decide +kernel
  · exact (h.handles Library.keeping_device ⟨1⟩ second).2 ⟨⟨second, hopened.1, rfl⟩, hopened.2⟩

end Client

end SerialBus.Native
