import SerialBus.Search
import SerialBus.Session.Call
import SerialBus.Session.Testbed
import SerialBus.Settings.Basic

/-!
Sessions: sequences of steps on devices, views, searches and backends, with what can be seen after
each step.
-/

namespace SerialBus.Session

/-- A test of found devices: all the parts that are given have to hold. -/
structure CustomTest where
  /-- Bits that the product id must have. -/
  productMask : Option Nat := none
  idAbove : Option Nat := none
  product : Option String := none

/-- The test as a predicate; the product string is read only if the rest holds. -/
def CustomTest.predicate {σ : Type} [Backend σ] (t : CustomTest) : StateM (Attachment σ) Bool :=
  fun a =>
    let d := a.device
    if t.productMask.all (fun m => d.descriptor.productId.toNat &&& m == m) &&
        t.idAbove.all (fun n => n < d.id.number) then
      match t.product with
      | none => (true, a)
      | some text =>
        match Device.product a with
        | .ok product a => (product == some text, a)
        | .error _ a => (false, a)
    else (false, a)

/-- A search as a step asks for it. -/
structure SearchRequest where
  settings : Option Settings := none
  /-- Kinds of backend to choose from; without them the session's own backend is searched. -/
  order : Option (List BackendKind) := none
  filters : List (DeviceField × Nat) := []
  custom : Option CustomTest := none

namespace SearchRequest

variable {σ : Type} [Backend σ]

def toSearch (r : SearchRequest) : Search σ :=
  let configured := (r.settings.map fun s => s.kinds none).getD BackendKind.priority
  { order := r.order.getD configured
    filters := r.filters
    predicate := r.custom.map CustomTest.predicate
    defaultTimeout := r.settings.map Settings.timeout }

def debugText (r : SearchRequest) : String :=
  let search : Search σ := r.toSearch
  search.debugText (if r.order.isSome then none else some (Backend.name σ))

end SearchRequest

/-- A step of a session. -/
inductive Step
  | hook (h : Hook)
  | create (id : DeviceId)
  | first (r : SearchRequest)
  | all (r : SearchRequest)
  | search (r : SearchRequest)
  | searchText (r : SearchRequest)
  | next (search : Nat)
  | drop (slot : Nat)
  | device (slot : Nat) (call : DeviceCall)
  | view (slot : Nat) (path : ViewPath)
  | onView (view : Nat) (call : ViewCall)
  | backend (call : BackendCall)

/-- A device in use, with the number of its backend. -/
structure Slot where
  backend : Nat
  device : Device

/-- A search that goes on step by step. -/
structure Pending (σ : Type) where
  backend : Nat
  search : Search σ
  ids : List DeviceId

/-- A session on a testbed `τ` of backends with states `σ`. -/
structure State (τ σ : Type) where
  bed : τ
  /-- The devices in the order of their creation; none stands for one that was dropped. -/
  slots : List (Option Slot) := []
  views : List (Nat × View) := []
  searches : List (Pending σ) := []

namespace State

variable {τ σ : Type} [Testbed τ σ] [Backend σ]

def slot? (s : State τ σ) (n : Nat) : Option Slot := s.slots[n]?.join

def onBed {α : Type} (act : Action τ α) : Action (State τ σ) α := fun s =>
  match act s.bed with
  | .ok a bed => .ok a { s with bed }
  | .error e bed => .error e { s with bed }

/-- An operation of the device in a slot. -/
def onSlot {α : Type} (n : Nat) (slot : Slot) (act : DeviceAction σ α) : Action (State τ σ) α :=
  fun s =>
    let put (a : Attachment σ) : State τ σ :=
      { s with
        bed := Testbed.restore slot.backend a.bus s.bed
        slots := s.slots.set n (some { slot with device := a.device }) }
    match act ⟨slot.device, Testbed.focus slot.backend s.bed⟩ with
    | .ok r a => .ok r (put a)
    | .error e a => .error e (put a)

/-- Takes up a device. -/
def add (backend : Nat) (device : Device) : Action (State τ σ) Created := do
  let slot := (← get).slots.length
  modify fun s => { s with slots := s.slots ++ [some { backend, device }] }
  return { slot, id := device.id }

/-- Puts the device of a slot away. -/
def dropSlot (n : Nat) (s : State τ σ) : State τ σ :=
  match s.slot? n with
  | none => s
  | some slot =>
    { s with
      bed := Testbed.restore slot.backend
        (slot.device.drop (Testbed.focus slot.backend s.bed)) s.bed
      slots := s.slots.set n none }

def dropAll (s : State τ σ) : State τ σ :=
  (List.range s.slots.length).foldl (fun s n => s.dropSlot n) s

/-- The backend that a search uses: the session's own, or the first one to start. -/
def chooseBackend (r : SearchRequest) : Action (State τ σ) Nat :=
  match r.order with
  | none => return 0
  | some order => onBed (BackendKind.select Testbed.start order)

/-- The reply to a step; none if the step names something that the session does not have. -/
def perform? (s : State τ σ) : Step → Option (EStateM.Result UsbError (State τ σ) Reply)
  | .hook h => do
    let (reply, bed) ← Testbed.hook h s.bed
    return .ok reply { s with bed }
  | .create id => some <| EStateM.run (s := s) do
    let d ← onBed (Testbed.on 0 (Device.read id))
    return .created (some (← add 0 d))
  | .first r => some <| EStateM.run (s := s) do
    let backend ← chooseBackend r
    match ← onBed (Testbed.on backend r.toSearch.first) with
    | none => return .created none
    | some d => return .created (some (← add backend d))
  | .all r => some <| EStateM.run (s := s) do
    let backend ← chooseBackend r
    let found ← onBed (Testbed.on backend r.toSearch.all)
    return .createdAll (← found.mapM (add backend))
  | .search r => some <| EStateM.run (s := s) do
    let backend ← chooseBackend r
    let ids ← onBed (Testbed.on backend (Backend.devices (σ := σ)))
    let n := (← get).searches.length
    modify fun s => { s with searches := s.searches ++ [⟨backend, r.toSearch, ids⟩] }
    return .number n
  | .searchText r => some (.ok (.text (r.debugText (σ := σ))) s)
  | .next m => do
    let p ← s.searches[m]?
    return EStateM.run (s := s) do
      let (item, ids) ← onBed (Testbed.on p.backend (p.search.next p.ids))
      modify fun s => { s with searches := s.searches.set m { p with ids } }
      match item with
      | none => return .created none
      | some (.ok d) => return .created (some (← add p.backend d))
      | some (.error e) => throw e
  | .drop n => do
    let _ ← s.slot? n
    return .ok .unit (s.dropSlot n)
  | .device n call => do
    let slot ← s.slot? n
    return EStateM.run (onSlot n slot call.perform) s
  | .view n path => do
    let slot ← s.slot? n
    return EStateM.run (s := s) do
      let (view, reply) ← onSlot n slot path.follow
      modify fun s => { s with views := s.views ++ [(n, view)] }
      return reply
  | .onView v call => do
    let (n, view) ← s.views[v]?
    let slot ← s.slot? n
    let act ← call.perform? view
    return EStateM.run (onSlot n slot act) s
  | .backend call => some (EStateM.run (onBed (Testbed.on 0 call.perform)) s)

end State

/-- What can be seen after a step. -/
structure Entry where
  outcome : Option (Except UsbError Reply)
  /-- How often each method was called during the step. -/
  calls : List (Loopback.Method × Nat)
  slots : List (Option Holdings)
  seen : Observation
  /-- The lines of the log from this step. -/
  log : Option (List String)

/-- The counts that grew, by how much they grew. -/
def grownCalls (before after : Table Loopback.Method Nat) : List (Loopback.Method × Nat) :=
  after.entries.filterMap fun (m, n) =>
    let old := (before.get? m).getD 0
    if old < n then some (m, n - old) else none

/-- The lines in front of those that were there before, in the order in which they came. -/
def newLines (before after : Option (List String)) : Option (List String) :=
  after.map fun lines => (lines.take (lines.length - (before.getD []).length)).reverse

def entry {τ σ : Type} [Testbed τ σ] (outcome : Option (Except UsbError Reply))
    (before after : State τ σ) : Entry :=
  let old := Testbed.observe before.bed
  let new := Testbed.observe after.bed
  { outcome
    calls := grownCalls old.calls new.calls
    slots := after.slots.map fun slot => slot.map (·.device.held)
    seen := new
    log := newLines old.log new.log }

/-- The entries of the steps, and one more for the end, where all devices are put away. -/
def run {τ σ : Type} [Testbed τ σ] [Backend σ] (s : State τ σ) :
    List Step → Option (List Entry × Entry)
  | [] => some ([], entry none s s.dropAll)
  | step :: rest => do
    match ← s.perform? step with
    | .ok reply after =>
      let (entries, last) ← run after rest
      return (entry (some (.ok reply)) s after :: entries, last)
    | .error e after =>
      let (entries, last) ← run after rest
      return (entry (some (.error e)) s after :: entries, last)

end SerialBus.Session
