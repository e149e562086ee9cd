import SerialBus.InterfaceWalk

/-! A device and what it holds on its backend: the open handle, the claims and the caches. -/

namespace SerialBus

/-- An endpoint address together with the interface and alternate that it was found on. -/
structure EndpointKey where
  address : UInt8
  number : UInt8
  alternate : UInt8
  deriving DecidableEq, Repr, Inhabited

def EndpointKey.rank (k : EndpointKey) : Nat :=
  k.address.toNat * 65536 + k.number.toNat * 256 + k.alternate.toNat

instance : Ranked EndpointKey := ⟨EndpointKey.rank, fun {a b} h => by
  cases a with | mk p q r
  cases b with | mk u v w
  simp only [EndpointKey.rank] at h
  have hq := UInt8.toNat_lt q
  have hr := UInt8.toNat_lt r
  have hv := UInt8.toNat_lt v
  have hw := UInt8.toNat_lt w
  simp only [EndpointKey.mk.injEq, ← UInt8.toNat_inj]
  omega⟩

structure Holdings where
  handle : Option HandleId
  /-- The index of the configuration that is known to be active. -/
  activeConfig : Option UInt8
  /-- How many claims there are on each claimed interface number. -/
  claimed : Table UInt8 Nat
  /-- The alternate selected for an interface number. -/
  alternates : Table UInt8 UInt8
  endpointTypes : Table EndpointKey TransferType
  deriving DecidableEq

def Holdings.empty : Holdings := ⟨none, none, ∅, ∅, ∅⟩

instance : Inhabited Holdings := ⟨.empty⟩

/-- Whether nothing is held and nothing is remembered. -/
def Holdings.isClear (h : Holdings) : Bool :=
  h.handle.isNone && h.activeConfig.isNone && h.claimed.isEmpty && h.alternates.isEmpty &&
    h.endpointTypes.isEmpty

/-- A device, with the descriptor that was read when it was first seen. -/
structure Device where
  id : DeviceId
  descriptor : DeviceDescriptor
  /-- The timeout in ms of transfers that name none. -/
  defaultTimeout : Nat := 1000
  held : Holdings := .empty
  deriving DecidableEq, Inhabited

/-- A device and the bus that it is on. -/
structure Attachment (σ : Type) where
  device : Device
  bus : σ

/-- An operation of a device on a bus with states `σ`. -/
abbrev DeviceAction (σ α : Type) : Type := Action (Attachment σ) α

variable {σ α : Type}

/-- An operation of the bus, as an operation of the device on it. -/
def onBus (act : Action σ α) : DeviceAction σ α := fun s =>
  match act s.bus with
  | .ok a b => .ok a { s with bus := b }
  | .error e b => .error e { s with bus := b }

def getDevice : DeviceAction σ Device := return (← get).device

def getHeld : DeviceAction σ Holdings := return (← get).device.held

def modifyDevice (f : Device → Device) : DeviceAction σ Unit :=
  modify fun s => { s with device := f s.device }

def modifyHeld (f : Holdings → Holdings) : DeviceAction σ Unit :=
  modifyDevice fun d => { d with held := f d.held }

/-- The device with the number, its descriptor read from the backend. -/
def Device.read [Backend σ] (id : DeviceId) : Action σ Device :=
  return { id, descriptor := ← Backend.deviceDescriptor id }

end SerialBus
