import SerialBus.Descriptor.Names
import SerialBus.Device.Strings
import SerialBus.Json.Basic

/-! What a list of devices tells about each of them. -/

namespace SerialBus

/-- A device in a list; a string that cannot be read is left out. -/
structure DeviceSummary where
  bus : Option UInt8
  address : Option UInt8
  vendorId : String
  productId : String
  deviceClass : UInt8
  className : String
  manufacturer : Option String
  product : Option String
  serialNumber : Option String
  deriving DecidableEq, Repr, Inhabited

def DeviceSummary.toJson (s : DeviceSummary) : Json :=
  .ofMembers
    [("bus", .ofOption (fun b => .ofNat b.toNat) s.bus),
     ("address", .ofOption (fun a => .ofNat a.toNat) s.address),
     ("vendor_id", .ofText s.vendorId),
     ("product_id", .ofText s.productId),
     ("class", .ofNat s.deviceClass.toNat),
     ("class_name", .ofText s.className),
     ("manufacturer", .ofOption .ofText s.manufacturer),
     ("product", .ofOption .ofText s.product),
     ("serial_number", .ofOption .ofText s.serialNumber)]

variable {σ : Type} [Backend σ]

def Device.bestEffort (act : DeviceAction σ (Option String)) : DeviceAction σ (Option String) := do
  match ← attempt act with
  | .ok text => return text
  | .error _ => return none

def Device.summary : DeviceAction σ DeviceSummary := do
  let d := (← getDevice).descriptor
  return {
    bus := d.bus
    address := d.address
    vendorId := Text.hex 4 d.vendorId.toNat
    productId := Text.hex 4 d.productId.toNat
    deviceClass := d.deviceClass
    className := deviceClassName d.deviceClass
    manufacturer := ← bestEffort Device.manufacturer
    product := ← bestEffort Device.product
    serialNumber := ← bestEffort Device.serialNumber }

end SerialBus
