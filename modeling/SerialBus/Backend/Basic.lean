import SerialBus.Backend.Error
import SerialBus.Descriptor.Basic
import SerialBus.Table

/-!
What a backend offers: enumeration, descriptors by index, handles and transfers. A backend is the
type of its states; each operation returns a result and the next state, also when it fails.
-/

namespace SerialBus

/-- A device as its backend numbers it. -/
structure DeviceId where
  number : Nat
  deriving DecidableEq, Repr, Inhabited

/-- An open handle as its backend numbers it. -/
structure HandleId where
  number : Nat
  deriving DecidableEq, Repr, Inhabited

instance : Ranked DeviceId := ⟨DeviceId.number, fun {a b} h => by cases a; cases b; simp_all⟩

instance : Ranked HandleId := ⟨HandleId.number, fun {a b} h => by cases a; cases b; simp_all⟩

/-- The data stage of a transfer: bytes to send, or the number of bytes to read. -/
inductive Payload
  | send (data : List UInt8)
  | receive (length : Nat)
  deriving DecidableEq, Repr, Inhabited

/-- What a transfer did: how many bytes it wrote, or the bytes that it read. -/
inductive Transferred
  | written (count : Nat)
  | read (data : List UInt8)
  deriving DecidableEq, Repr, Inhabited

namespace Transferred

def written? : Transferred → Option Nat
  | .written count => some count
  | .read _ => none

def data? : Transferred → Option (List UInt8)
  | .read data => some data
  | .written _ => none

def toWritten : Transferred → Except UsbError Nat
  | .written count => .ok count
  | .read _ => .error (.invalidArgument "backend returned data for an OUT transfer")

def toData : Transferred → Except UsbError (List UInt8)
  | .read data => .ok data
  | .written _ => .error (.invalidArgument "backend returned a byte count for an IN transfer")

end Transferred

/-- The eight bytes in front of a control transfer, without the length. -/
structure Setup where
  requestType : UInt8
  request : UInt8
  value : UInt16 := 0
  index : UInt16 := 0
  deriving DecidableEq, Repr, Inhabited

/-- An operation that reads and changes a state of type `σ` and may fail. -/
abbrev Action (σ α : Type) : Type := EStateM UsbError σ α

/-- Raises the error of a result. -/
def liftResult {σ α : Type} : Except UsbError α → Action σ α
  | .ok a => pure a
  | .error e => throw e

/-- The result of `act` as a value, so that a failure does not end the caller. -/
def attempt {σ α : Type} (act : Action σ α) : Action σ (Except UsbError α) := fun s =>
  match act s with
  | .ok a s => .ok (.ok a) s
  | .error e s => .ok (.error e) s

/--
The operations of a backend with states `σ`. Descriptors are addressed by their position among
their siblings. The operations with a default are optional.
-/
class Backend (σ : Type) where
  name : String
  devices : Action σ (List DeviceId)
  deviceDescriptor : DeviceId → Action σ DeviceDescriptor
  configurationDescriptor : DeviceId → (config : UInt8) → Action σ ConfigurationDescriptor
  interfaceDescriptor : DeviceId → (interface alternate config : UInt8) →
    Action σ InterfaceDescriptor
  endpointDescriptor : DeviceId → (endpoint interface alternate config : UInt8) →
    Action σ EndpointDescriptor
  openDevice : DeviceId → Action σ HandleId
  closeDevice : HandleId → Action σ Unit
  setConfiguration : HandleId → (value : UInt8) → Action σ Unit
  configuration : HandleId → Action σ UInt8 := fun _ => throw (.notSupported "get_configuration")
  claimInterface : HandleId → (number : UInt8) → Action σ Unit
  releaseInterface : HandleId → (number : UInt8) → Action σ Unit
  setAlternate : HandleId → (number alternate : UInt8) → Action σ Unit
  bulkTransfer : HandleId → (endpoint number : UInt8) → Payload → (timeout : Nat) →
    Action σ Transferred
  interruptTransfer : HandleId → (endpoint number : UInt8) → Payload → (timeout : Nat) →
    Action σ Transferred
  isochronousTransfer : HandleId → (endpoint number : UInt8) → Payload → (timeout : Nat) →
    Action σ Transferred := fun _ _ _ _ _ => throw (.notSupported "isochronous_transfer")
  controlTransfer : HandleId → Setup → Payload → (timeout : Nat) → Action σ Transferred
  resetDevice : HandleId → Action σ Unit
  kernelDriverActive : HandleId → (number : UInt8) → Action σ Bool :=
    fun _ _ => throw (.notSupported "is_kernel_driver_active")
  detachKernelDriver : HandleId → (number : UInt8) → Action σ Unit :=
    fun _ _ => throw (.notSupported "detach_kernel_driver")
  attachKernelDriver : HandleId → (number : UInt8) → Action σ Unit :=
    fun _ _ => throw (.notSupported "attach_kernel_driver")
  clearHalt : HandleId → (endpoint : UInt8) → Action σ Unit :=
    fun _ _ => throw (.notSupported "clear_halt")

end SerialBus
