import SerialBus.Backend.Kind
import SerialBus.Loopback.Minimal
import SerialBus.Native.Library
import SerialBus.Session.Reply

/-!
The places where sessions run: a loopback bus, its minimal form, and a libusb that any number of
backends use.
-/

namespace SerialBus.Session

/-- A look or a change from outside, past all backends. -/
inductive Hook
  | failOn (method : Loopback.Method) (kind : TransportFailure)
  | clearFailures
  | resetCalls
  | callCount (method : String)
  | isHalted (id : DeviceId) (endpoint : UInt8)
  | claimed (id : DeviceId)
  | activeConfiguration (id : DeviceId)
  | setReply (method : Loopback.Method) (reply : Option Transferred)
  | attach (devices : List Native.Device) (failures : Table Native.Function Int)

/-- What can be seen from outside. -/
structure Observation where
  calls : Table Loopback.Method Nat := ∅
  /-- For each device the active configuration and the claimed interfaces. -/
  devices : List (UInt8 × List UInt8) := []
  handles : Nat := 0
  lastTimeout : Option Nat := none
  /-- The log of a simulated library, its last line first. -/
  log : Option (List String) := none

/-- States `τ` that hold numbered backends, each with states `σ`. -/
class Testbed (τ : Type) (σ : outParam Type) where
  focus : Nat → τ → σ
  restore : Nat → σ → τ → τ
  /-- Starts one more backend on libusb. -/
  start : Action τ Nat
  /-- None if there is nothing that the hook could act on. -/
  hook : Hook → τ → Option (Reply × τ)
  observe : τ → Observation

namespace Testbed

/-- An operation of one of the backends. -/
def on {τ σ α : Type} [Testbed τ σ] (backend : Nat) (act : Action σ α) : Action τ α := fun t =>
  match act (focus backend t) with
  | .ok a b => .ok a (restore backend b t)
  | .error e b => .error e (restore backend b t)

end Testbed

end SerialBus.Session

namespace SerialBus.Loopback

open Session

namespace Bus

def hook (b : Bus) : Hook → Option (Reply × Bus)
  | .failOn method kind => some (.unit, b.failOn method kind)
  | .clearFailures => some (.unit, b.clearFailures)
  | .resetCalls => some (.unit, b.resetCalls)
  | .callCount method =>
    some (.number (((Method.ofName? method).map b.callCount).getD 0), b)
  | .isHalted id endpoint => some (.flag (b.isHalted id endpoint), b)
  | .claimed id => some (.interfaceNumbers (b.claimedInterfaces id), b)
  | .activeConfiguration id =>
    some (.optionalNumber ((b.activeConfiguration? id).map UInt8.toNat), b)
  | _ => none

def observe (b : Bus) : Observation where
  calls := b.calls
  devices := b.devices.mapIdx fun i d => (d.activeConfiguration, b.claimedInterfaces ⟨i⟩)
  handles := b.openHandles
  lastTimeout := b.lastTimeout

instance : Testbed Bus Bus where
  focus _ b := b
  restore _ b _ := b
  start := throw .noBackendAvailable
  hook h b := b.hook h
  observe := observe

end Bus

instance : Testbed Minimal Minimal where
  focus _ m := m
  restore _ m _ := m
  start := throw .noBackendAvailable
  hook h m :=
    match h with
    | .setReply method reply => some (.unit, m.setReply method reply)
    | h => (m.bus.hook h).map fun (r, bus) => (r, { m with bus })
  observe m := m.bus.observe

end SerialBus.Loopback

namespace SerialBus.Native

open Session

/-- A library and its users, the first of which is number 0. -/
structure Host where
  library : Library
  contexts : List (Context Device Handle) := []
  deriving DecidableEq

/-- How a session comes to its first backend. -/
inductive FirstBackend
  /-- The backend on libusb itself. -/
  | direct
  /-- The backend of its kind. -/
  | probed
  /-- The first backend in the usual order. -/
  | preferred
  deriving DecidableEq, Repr, Inhabited

namespace Host

/-- Starts one more user of the library. -/
def start : Action Host Nat := fun h =>
  match Bus.start { library := h.library, context := {} } with
  | .ok () b =>
    .ok h.contexts.length { library := b.library, contexts := h.contexts ++ [b.context] }
  | .error e b => .error e { h with library := b.library }

/-- The library with its first user. -/
def ofLibrary (library : Library) (how : FirstBackend) : Except UsbError Host :=
  let act : Action Host Nat :=
    match how with
    | .direct => start
    | .probed => BackendKind.probe start .libusb1
    | .preferred => BackendKind.select start BackendKind.priority
  match act { library } with
  | .ok _ h => .ok h
  | .error e _ => .error e

instance : Testbed Host Bus where
  focus n h := { library := h.library, context := h.contexts.getD n {} }
  restore n b h := { library := b.library, contexts := h.contexts.set n b.context }
  start := start
  hook k h :=
    match k with
    | .attach attached failures =>
      some (.unit, { h with library := { h.library with attached, failures } })
    | _ => none
  observe h := { log := some h.library.log }

end Host

end SerialBus.Native
