import SerialBus.Proofs.Routing.Runs
import SerialBus.Proofs.Uncached.Exactness

/-! Runs of a device with caches and of one without. Whatever is done, both return the same and
leave the same on the bus. -/
namespace SerialBus.Uncached

open SerialBus.Action Device Custody
open Loopback (Bus)
open Routing (Attached Coherent coherence)

section

variable {σ τ α : Type} [Backend σ] [Backend τ] {P : Attachment σ → Attachment τ → Prop}

/-- Each operation with caches is in step with itself; a reset has to be shown to be so. -/
theorem simulates_cached (hP : Whole .same P) (hN : NamedTransfers P)
    (hr : Simulates P Device.reset Device.reset) (op : Named α) :
    Simulates P op.cached op.cached := by
  cases op with
  | setConfiguration value => exact hP.setConfiguration value
  | activeConfiguration => exact hP.activeConfiguration
  | setAlternate interface alternate => exact hP.setAlternate (.ofNumber? interface) alternate
  | claim interface => exact hP.claim (.ofNumber? interface)
  | release interface => exact hP.giveBack (.ofNumber? interface)
  | write endpoint data interface timeout => exact Whole.write hN endpoint data interface timeout
  | read endpoint length interface timeout =>
    exact Whole.receive hN endpoint length interface timeout
  | reset => exact hr
  | dispose => exact hP.dispose
  | kernelDriverActive interface =>
    exact (hP.kernelDriverTarget interface).mapBind fun k =>
      hP.onBus fun d => hP.bus d (.kernelDriverActive k.1 k.2) rfl rfl rfl
  | detachKernelDriver interface =>
    exact (hP.kernelDriverTarget interface).mapBind fun k =>
      hP.onBus fun d => hP.bus d (.detachKernelDriver k.1 k.2) rfl rfl rfl
  | attachKernelDriver interface =>
    exact (hP.kernelDriverTarget interface).mapBind fun k =>
      hP.onBus fun d => hP.bus d (.attachKernelDriver k.1 k.2) rfl rfl rfl

end

section

variable {α : Type} {spec : Loopback.Device} {s t : Attachment Bus} (hspec : Readable spec)

include hspec

theorem coherence_cached (op : Named α) : Keeps (coherence scanned spec) (op.cached : _) :=
  keeps_of_simulates fun a => simulates_cached (Routing.whole_coherence a)
    (fun endpoint payload interface timeout => (Routing.coherence_transfer hspec.assembled endpoint
      payload interface timeout).simulates a)
    (Routing.coherence_reset.simulates a) op

variable (hp : Paired spec s t)

include hp

theorem simulatesAt_transfer (endpoint : UInt8) (payload : Payload) (interface timeout) :
    SimulatesAt (Mirrors spec.descriptor)
      (Device.transfer endpoint payload (.ofNumber? interface) timeout)
      (transfer endpoint payload (.ofNumber? interface) timeout) s t := by
  have hparts : (Device.transfer endpoint payload (.ofNumber? interface) timeout :
      DeviceAction Bus Transferred) = Device.findInterface (.ofNumber? interface) >>= fun l =>
        Device.endpointType endpoint l >>= fun kind => carry endpoint payload timeout (l, kind) :=
    rfl
  rw [hparts]
  refine (simulatesAt_findInterface hspec hp _).bind fun l hl => ?_
  -- The interface was found in the configuration that is still the active one.
  obtain ⟨config, c, hindex, hcurrent, hplaced⟩ :=
    Routing.placed_of_findInterface hspec.assembled hp.attached hl
  obtain ⟨-, hstill⟩ := Routing.still_findInterface (.ofNumber? interface) s hp.attached
  have hnext := paired_findInterface hspec hp (.ofNumber? interface)
  have htype := simulatesAt_endpointType hspec hnext (hstill.current.trans hcurrent) hindex
    hplaced endpoint
  exact htype.followed fun kind => mirrors_carry endpoint payload timeout (l, kind)

/-- The operations on kernel drivers go by the interface that is found. -/
theorem simulatesAt_onDriver (op : HandleId → UInt8 → Operation α) (interface : UInt8) :
    SimulatesAt (Mirrors spec.descriptor)
      (kernelDriverTarget interface >>= fun k => onBus (op k.1 k.2).act)
      (onDriver (fun h number => (op h number).act) interface) s t := by
  unfold kernelDriverTarget
  simp only [bind_assoc, pure_bind]
  exact (simulatesAt_findInterface hspec hp (.number interface)).followed fun l =>
    mirrors_openHandle.bind fun h => mirrors_act (op h l.descriptor.interfaceNumber)

/-- The operation returns the same with caches and without, and leaves the same on the bus. -/
theorem simulatesAt_named (op : Named α) :
    SimulatesAt (Mirrors spec.descriptor) op.cached op.uncached s t := by
  have hmirrors := hp.mirrors
  cases op with
  | setConfiguration value => exact mirrors_setConfiguration value s t hmirrors
  | activeConfiguration => exact simulatesAt_activeConfiguration hspec hp
  | setAlternate interface alternate =>
    change SimulatesAt _ (Device.setAlternate _ alternate) _ s t
    rw [setAlternate_eq]
    exact (simulatesAt_findInterface hspec hp _).followed fun current =>
      (mirrors_checkAlternate current _).bind fun _ => mirrors_selectAlternate _ _
  | claim interface => exact mirrors_claim _ s t hmirrors
  | release interface => exact mirrors_release _ s t hmirrors
  | write endpoint data interface timeout =>
    exact (simulatesAt_transfer hspec hp endpoint (.send data) interface timeout).followed
      fun r => simulates_liftResult r.toWritten
  | read endpoint length interface timeout =>
    exact (simulatesAt_transfer hspec hp endpoint (.receive length) interface timeout).followed
      fun r => simulates_liftResult r.toData
  | reset => exact mirrors_reset s t hmirrors
  | dispose => exact mirrors_dispose true s t hmirrors
  | kernelDriverActive interface =>
    exact simulatesAt_onDriver hspec hp .kernelDriverActive interface
  | detachKernelDriver interface =>
    exact simulatesAt_onDriver hspec hp .detachKernelDriver interface
  | attachKernelDriver interface =>
    exact simulatesAt_onDriver hspec hp .attachKernelDriver interface

theorem paired_named (op : Named α) : Paired spec (after op.cached s) (after op.uncached t) := by
  obtain ⟨hattached, hcoherent⟩ := coherence_cached hspec op s hp.attached
  obtain ⟨-, hmirrors⟩ := simulatesAt_named hspec hp op
  exact ⟨hattached, hcoherent hp.coherent, hmirrors⟩

end

/-- The state after some operations of the device. -/
def run (a : Attachment Bus) (calls : List (Sigma Named)) : Attachment Bus :=
  calls.foldl (fun a c => after c.2.cached a) a

/-- The state after the operations if they are performed without caches. -/
def runUncached (a : Attachment Bus) (calls : List (Sigma Named)) : Attachment Bus :=
  calls.foldl (fun a c => after c.2.uncached a) a

theorem paired_run {spec : Loopback.Device} (hspec : Readable spec) {s t : Attachment Bus}
    (hp : Paired spec s t) (calls : List (Sigma Named)) :
    Paired spec (run s calls) (runUncached t calls) := by
  induction calls generalizing s t with
  | nil => exact hp
  | cons c rest ih => exact ih (paired_named hspec hp c.2)

theorem paired_atStart {specs : List Loopback.Device} {id : DeviceId} {spec : Loopback.Device}
    (hspec : specs[id.number]? = some spec) :
    Paired spec (atStart specs id spec.descriptor) (atStart specs id spec.descriptor) where
  attached := Routing.attached_atStart hspec spec.descriptor
  coherent key kind hk := by cases hk
  mirrors := ⟨rfl, rfl, rfl, rfl⟩

/-- No type outlives the selection of a configuration. -/
theorem endpointTypes_setConfiguration {σ : Type} [Backend σ] {value : Option UInt8}
    {a : Attachment σ} (ho : outcome (Device.setConfiguration value) a = .ok ()) :
    (after (Device.setConfiguration value) a).device.held.endpointTypes = ∅ := by
  have hparts : (Device.setConfiguration value : DeviceAction σ Unit) =
      chooseConfiguration value >>= fun p => openHandle >>= fun h =>
        onBus (Backend.setConfiguration h p.2) >>= fun _ =>
          modifyHeld ({ · with activeConfig := p.1, alternates := ∅, endpointTypes := ∅ }) := rfl
  rw [hparts] at ho ⊢
  obtain ⟨p, hchosen, ho⟩ := outcome_bind_eq_ok.1 ho
  obtain ⟨h, hopened, ho⟩ := outcome_bind_eq_ok.1 ho
  obtain ⟨u, hset, -⟩ := outcome_bind_eq_ok.1 ho
  rw [after_bind_ok _ hchosen, after_bind_ok _ hopened, after_bind_ok _ hset]
  rfl

/-- Whatever was done before, an operation returns the same from a device with caches and from one
without, and the two leave the same on the bus, with the same handle, claims and alternates. The
types that are remembered are those that a search finds now, and none is left over when another
configuration is selected. -/
theorem caches_unseen {specs : List Loopback.Device} {id : DeviceId} {spec : Loopback.Device}
    (hspec : specs[id.number]? = some spec) (hreadable : Readable spec)
    (calls : List (Sigma Named)) :
    let s := run (atStart specs id spec.descriptor) calls
    let t := runUncached (atStart specs id spec.descriptor) calls
    (∀ {α : Type} (op : Named α), outcome op.cached s = outcome op.uncached t) ∧
    t.bus.core = s.bus.core ∧ t.device = s.device.bare ∧ Coherent scanned s ∧
    ∀ value, outcome (Device.setConfiguration value) s = .ok () →
      (after (Device.setConfiguration value) s).device.held.endpointTypes = ∅ := by
  intro s t
  have hp : Paired spec s t := paired_run hreadable (paired_atStart hspec) calls
  refine ⟨fun {α} op => ?_, hp.mirrors.bus, hp.mirrors.device, hp.coherent, fun value ho => ?_⟩
  · exact (simulatesAt_named hreadable hp op).1
  · exact endpointTypes_setConfiguration ho

/-- Data is written to a bulk endpoint, and then to the interrupt endpoint with its address. -/
theorem caches_unseen_twoTypes :
    let calls : List (Sigma Named) :=
      [⟨_, .write 0x01 [1, 2] none none⟩, ⟨_, .setConfiguration (some 2)⟩]
    let s := run (atStart [Routing.twoTypes] ⟨0⟩ Routing.twoTypes.descriptor) calls
    let t := runUncached (atStart [Routing.twoTypes] ⟨0⟩ Routing.twoTypes.descriptor) calls
    outcome (Device.write 0x01 [3] none none) s = .ok 1 ∧
      outcome (write 0x01 [3] none none) t = .ok 1 ∧ t.bus.core = s.bus.core := by
  intro calls s t
  have hreadable : Readable Routing.twoTypes :=
    ⟨Routing.assembled_twoTypes, by decide, by decide, rfl⟩
  have hspec : [Routing.twoTypes][(⟨0⟩ : DeviceId).number]? = some Routing.twoTypes := rfl
  obtain ⟨hsame, hcore, -⟩ := caches_unseen hspec hreadable calls
  have hcached : outcome (Device.write 0x01 [3] none none) s = .ok 1 := by decide +kernel
  have hwritten : outcome (Device.write 0x01 [3] none none) s =
      outcome (write 0x01 [3] none none) t := hsame (.write 0x01 [3] none none)
  exact ⟨hcached, hwritten.symm.trans hcached, hcore⟩

end SerialBus.Uncached
