import SerialBus.Descriptor.Strings
import SerialBus.Device.StandardRequest

/-! The strings of a device, and the texts by which a device is shown. -/

namespace SerialBus.Device

variable {σ : Type} [Backend σ]

def malformedString (e : DescriptorError) : UsbError :=
  .invalidArgument s!"malformed string descriptor: {e.message}"

def ofDescriptorResult {α : Type} : Except DescriptorError α → DeviceAction σ α
  | .ok a => pure a
  | .error e => throw (malformedString e)

/-- The reply to a request for a string descriptor. -/
def stringDescriptor (index : UInt8) (langid : UInt16) : DeviceAction σ (List UInt8) :=
  getDescriptor StringDescriptor.maxLength StringDescriptor.typeCode index langid

/-- Whether a reply is too short for one language identifier, or announces an odd length. -/
def holdsNoLangid (raw : List UInt8) : Bool :=
  raw.length < 4 || raw.head?.all fun length => length < 4 || length &&& 1 != 0

/-- The language identifiers of the device. -/
def langids : DeviceAction σ (List UInt16) := do
  let raw ← stringDescriptor 0 0
  if holdsNoLangid raw then return []
  ofDescriptorResult (StringDescriptor.decodeLangids raw)

/-- The string with the index, in the first language of the device unless one is given. -/
def string (index : UInt8) (langid : Option UInt16) : DeviceAction σ (Option String) := do
  if index = 0 then return none
  let langid ← match langid with
    | some id => pure id
    | none =>
      match (← langids).head? with
      | some id => pure id
      | none => throw (.notSupported "device reports no LANGIDs")
  let text ← ofDescriptorResult (StringDescriptor.decode (← stringDescriptor index langid))
  return some (String.ofList text)

def manufacturer : DeviceAction σ (Option String) := do
  string (← getDevice).descriptor.manufacturerIndex none

def product : DeviceAction σ (Option String) := do
  string (← getDevice).descriptor.productIndex none

def serialNumber : DeviceAction σ (Option String) := do
  string (← getDevice).descriptor.serialNumberIndex none

/-- The device by its place on the bus, or by its number if that is not known. -/
def text (d : Device) : String :=
  let place := match d.descriptor.bus, d.descriptor.address with
    | some bus, some address =>
      s!"Bus {Text.decimal 3 bus.toNat} Device {Text.decimal 3 address.toNat}: "
    | _, _ => s!"Device {d.id.number}: "
  place ++ s!"ID {Text.hex 4 d.descriptor.vendorId.toNat}:{Text.hex 4 d.descriptor.productId.toNat}"

/-- The fields of the device, for a reader who debugs. -/
def debugText (d : Device) (backend : String) : String :=
  s!"Device \x7b id: DeviceId({d.id.number}), backend: \"{backend}\", " ++
    s!"vendor_id: {Text.hexMarked 4 d.descriptor.vendorId.toNat}, " ++
    s!"product_id: {Text.hexMarked 4 d.descriptor.productId.toNat}, " ++
    s!"default_timeout: {d.defaultTimeout} \x7d"

end SerialBus.Device
