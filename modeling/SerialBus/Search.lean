import SerialBus.Backend.Kind
import SerialBus.Device.Strings

/-! Searches for devices by the fields of their descriptors and by a predicate. -/

namespace SerialBus

/-- The fields of a device descriptor that a filter can name. -/
inductive DeviceField
  | usbVersion
  | deviceClass
  | deviceSubclass
  | deviceProtocol
  | maxPacketSize0
  | vendorId
  | productId
  | deviceVersion
  | manufacturerIndex
  | productIndex
  | serialNumberIndex
  | numConfigurations
  | bus
  | address
  | portNumber
  deriving DecidableEq, Repr, Inhabited

namespace DeviceField

def all : List DeviceField :=
  [usbVersion, deviceClass, deviceSubclass, deviceProtocol, maxPacketSize0, vendorId, productId,
   deviceVersion, manufacturerIndex, productIndex, serialNumberIndex, numConfigurations, bus,
   address, portNumber]

def name : DeviceField → String
  | usbVersion => "UsbVersion"
  | deviceClass => "DeviceClass"
  | deviceSubclass => "DeviceSubclass"
  | deviceProtocol => "DeviceProtocol"
  | maxPacketSize0 => "MaxPacketSize0"
  | vendorId => "VendorId"
  | productId => "ProductId"
  | deviceVersion => "DeviceVersion"
  | manufacturerIndex => "ManufacturerIndex"
  | productIndex => "ProductIndex"
  | serialNumberIndex => "SerialNumberIndex"
  | numConfigurations => "NumConfigurations"
  | bus => "Bus"
  | address => "Address"
  | portNumber => "PortNumber"

def ofName? (s : String) : Option DeviceField := all.find? (·.name == s)

/-- The value of the field; none where the place on the bus is not known. -/
def value? (d : DeviceDescriptor) : DeviceField → Option Nat
  | usbVersion => some d.usbVersion.toNat
  | deviceClass => some d.deviceClass.toNat
  | deviceSubclass => some d.deviceSubclass.toNat
  | deviceProtocol => some d.deviceProtocol.toNat
  | maxPacketSize0 => some d.maxPacketSize0.toNat
  | vendorId => some d.vendorId.toNat
  | productId => some d.productId.toNat
  | deviceVersion => some d.deviceVersion.toNat
  | manufacturerIndex => some d.manufacturerIndex.toNat
  | productIndex => some d.productIndex.toNat
  | serialNumberIndex => some d.serialNumberIndex.toNat
  | numConfigurations => some d.numConfigurations.toNat
  | bus => d.bus.map UInt8.toNat
  | address => d.address.map UInt8.toNat
  | portNumber => d.portNumber.map UInt8.toNat

/-- The numbers that stand in the fields of a descriptor: a place on the bus that is not known has
none. -/
inductive Has (d : DeviceDescriptor) : DeviceField → Nat → Prop
  | usbVersion : Has d .usbVersion d.usbVersion.toNat
  | deviceClass : Has d .deviceClass d.deviceClass.toNat
  | deviceSubclass : Has d .deviceSubclass d.deviceSubclass.toNat
  | deviceProtocol : Has d .deviceProtocol d.deviceProtocol.toNat
  | maxPacketSize0 : Has d .maxPacketSize0 d.maxPacketSize0.toNat
  | vendorId : Has d .vendorId d.vendorId.toNat
  | productId : Has d .productId d.productId.toNat
  | deviceVersion : Has d .deviceVersion d.deviceVersion.toNat
  | manufacturerIndex : Has d .manufacturerIndex d.manufacturerIndex.toNat
  | productIndex : Has d .productIndex d.productIndex.toNat
  | serialNumberIndex : Has d .serialNumberIndex d.serialNumberIndex.toNat
  | numConfigurations : Has d .numConfigurations d.numConfigurations.toNat
  | bus {n : UInt8} (h : d.bus = some n) : Has d .bus n.toNat
  | address {n : UInt8} (h : d.address = some n) : Has d .address n.toNat
  | portNumber {n : UInt8} (h : d.portNumber = some n) : Has d .portNumber n.toNat

/-- The value of a field is the number that stands in it. -/
theorem value?_eq_some_iff {d : DeviceDescriptor} {field : DeviceField} {n : Nat} :
    field.value? d = some n ↔ field.Has d n := by
  constructor
  · intro h
    cases field with
    | bus =>
      obtain ⟨b, hb, rfl⟩ := Option.map_eq_some_iff.1 h
      exact .bus hb
    | address =>
      obtain ⟨b, hb, rfl⟩ := Option.map_eq_some_iff.1 h
      exact .address hb
    | portNumber =>
      obtain ⟨b, hb, rfl⟩ := Option.map_eq_some_iff.1 h
      exact .portNumber hb
    | _ =>
      cases h
      constructor
  · intro h
    cases h with
    | bus h | address h | portNumber h => simp [value?, h]
    | _ => rfl

instance {d : DeviceDescriptor} {field : DeviceField} {n : Nat} : Decidable (field.Has d n) :=
  decidable_of_iff (field.value? d = some n) value?_eq_some_iff

end DeviceField

/-- What to search for, and the timeout that found devices get. -/
structure Search (σ : Type) where
  order : List BackendKind := BackendKind.priority
  filters : List (DeviceField × Nat) := []
  /-- A further test, which may use the device. -/
  predicate : Option (StateM (Attachment σ) Bool) := none
  defaultTimeout : Option Nat := none

namespace Search

variable {σ : Type}

/-- Whether the descriptor has the values of all filters. -/
def admits (s : Search σ) (d : DeviceDescriptor) : Bool :=
  s.filters.all fun (field, value) => field.value? d == some value

variable [Backend σ]

/-- The device if the search wants it; one that the predicate turns down is put away. -/
def judge (s : Search σ) (d : Device) : Action σ (Option Device) := fun bus =>
  if s.admits d.descriptor then
    match s.predicate with
    | none => .ok (some d) bus
    | some test =>
      let (wanted, a) := test ⟨d, bus⟩
      if wanted then .ok (some a.device) a.bus else .ok none (a.device.drop a.bus)
  else .ok none bus

/-- The device with the timeout of the search. -/
def prepare (s : Search σ) (d : Device) : Device :=
  match s.defaultTimeout with
  | some timeout => { d with defaultTimeout := timeout }
  | none => d

/-- What the search yields for one device: nothing if it is not wanted. -/
def item (s : Search σ) (id : DeviceId) : Action σ (Option (Except UsbError Device)) := do
  match ← attempt (Device.read id) with
  | .error e => return some (.error e)
  | .ok d => return (← s.judge d).map fun d => .ok (s.prepare d)

/-- The next item among the devices that are left, with those left after it. -/
def next (s : Search σ) :
    List DeviceId → Action σ (Option (Except UsbError Device) × List DeviceId)
  | [] => return (none, [])
  | id :: rest => do
    match ← s.item id with
    | some item => return (some item, rest)
    | none => next s rest

/-- The first device that is found. -/
def first (s : Search σ) : Action σ (Option Device) := do
  match ← s.next (← Backend.devices) with
  | (none, _) => return none
  | (some (.ok d), _) => return some d
  | (some (.error e), _) => throw e

/-- The devices found, behind those found before; at a failure all of these are put away. -/
def collect (s : Search σ) (found : List Device) : List DeviceId → Action σ (List Device)
  | [] => return found
  | id :: rest => do
    match ← s.item id with
    | none => collect s found rest
    | some (.ok d) => collect s (found ++ [d]) rest
    | some (.error e) =>
      modify fun bus => found.foldl (fun bus d => d.drop bus) bus
      throw e

/-- All devices that are found, in the order of enumeration. -/
def all (s : Search σ) : Action σ (List Device) := do
  s.collect [] (← Backend.devices)

/-- The parts of the search, for a reader who debugs. -/
def debugText (s : Search σ) (backend : Option String) : String :=
  let backend := match backend with
    | some name => s!"Some(\"{name}\")"
    | none => "None"
  let order := ", ".intercalate (s.order.map BackendKind.debugText)
  let filters := ", ".intercalate (s.filters.map fun (field, value) => s!"({field.name}, {value})")
  s!"Finder \x7b backend: {backend}, order: [{order}], filters: [{filters}], " ++
    s!"custom_match: {s.predicate.isSome} \x7d"

end Search

end SerialBus
