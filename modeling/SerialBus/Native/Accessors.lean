import SerialBus.Native.Device
import SerialBus.Native.Libusb

/-!
What a simulated library tells of descriptors: it decodes the raw fields of its devices.
-/

namespace SerialBus.Native

/-- The synchronization type is bits 2 and 3 of an endpoint's attributes. -/
def syncTypeOf (attributes : UInt8) : SyncType :=
  match (attributes &&& 0x0C) >>> 2 with
  | 0 => .noSync
  | 1 => .asynchronous
  | 2 => .adaptive
  | _ => .synchronous

/-- The usage type is bits 4 and 5 of an endpoint's attributes. -/
def usageTypeOf (attributes : UInt8) : UsageType :=
  match (attributes &&& 0x30) >>> 4 with
  | 0 => .data
  | 1 => .feedback
  | 2 => .feedbackData
  | _ => .reserved

/-- A string index, of which 0 says that there is no string. -/
def stringIndex? (index : UInt8) : Option UInt8 := if index = 0 then none else some index

def Release.ofBcd (bcd : UInt16) : Release :=
  let tens : UInt16 := bcd >>> 12
  let units : UInt16 := (bcd >>> 8) &&& 0x0F
  let minor : UInt16 := (bcd >>> 4) &&& 0x0F
  let patch : UInt16 := bcd &&& 0x0F
  ⟨(tens * 10 + units).toUInt8, minor.toUInt8, patch.toUInt8⟩

def Endpoint.decoded (e : Endpoint) : Decoded.Endpoint where
  address := e.address
  transferType := transferTypeOf e.attributes
  syncType := syncTypeOf e.attributes
  usageType := usageTypeOf e.attributes
  maxPacketSize := e.maxPacketSize
  interval := e.interval

def Alternate.decoded (a : Alternate) : Decoded.Alternate where
  number := a.number
  alternate := a.alternate
  numEndpoints := a.endpoints.length.toUInt8
  interfaceClass := a.interfaceClass
  interfaceSubclass := a.interfaceSubclass
  interfaceProtocol := a.interfaceProtocol
  descriptionIndex? := stringIndex? a.stringIndex
  endpoints := a.endpoints.map Endpoint.decoded

/-- The maximum power is counted in units of 2 mA. -/
def Configuration.decoded (c : Configuration) : Decoded.Configuration where
  value := c.value
  numInterfaces := c.interfaces.length.toUInt8
  selfPowered := c.attributes &&& 0x40 != 0
  remoteWakeup := c.attributes &&& 0x20 != 0
  maxPowerMilliamps := c.maxPower.toUInt16 * 2
  descriptionIndex? := stringIndex? c.stringIndex
  interfaces := c.interfaces.map fun alternates => alternates.map Alternate.decoded

def Device.decoded (d : Device) : Decoded.Device where
  usbVersion := .ofBcd d.usbVersion
  deviceVersion := .ofBcd d.deviceVersion
  deviceClass := d.deviceClass
  deviceSubclass := d.deviceSubclass
  deviceProtocol := d.deviceProtocol
  maxPacketSize0 := d.maxPacketSize0
  vendorId := d.vendorId
  productId := d.productId
  manufacturerIndex? := stringIndex? d.manufacturerIndex
  productIndex? := stringIndex? d.productIndex
  serialNumberIndex? := stringIndex? d.serialNumberIndex
  numConfigurations := d.numConfigurations

instance : Located Device where
  bus := Device.bus
  address := Device.address
  port := Device.port

end SerialBus.Native
