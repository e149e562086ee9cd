import SerialBus.Descriptor.Field

/-! The four standard descriptors of a device's descriptor tree. -/

namespace SerialBus

/-- A device descriptor; the last three fields are the device's place on the bus, where known. -/
structure DeviceDescriptor where
  length : UInt8 := 18
  descriptorType : UInt8 := 1
  usbVersion : UInt16 := 0x0200
  deviceClass : UInt8 := 0
  deviceSubclass : UInt8 := 0
  deviceProtocol : UInt8 := 0
  maxPacketSize0 : UInt8 := 64
  vendorId : UInt16 := 0
  productId : UInt16 := 0
  deviceVersion : UInt16 := 0x0100
  manufacturerIndex : UInt8 := 0
  productIndex : UInt8 := 0
  serialNumberIndex : UInt8 := 0
  numConfigurations : UInt8 := 0
  bus : Option UInt8 := none
  address : Option UInt8 := none
  portNumber : Option UInt8 := none
  deriving DecidableEq, Repr, Inhabited

structure ConfigurationDescriptor where
  length : UInt8 := 9
  descriptorType : UInt8 := 2
  totalLength : UInt16 := 0
  numInterfaces : UInt8 := 0
  configurationValue : UInt8 := 1
  stringIndex : UInt8 := 0
  attributes : UInt8 := 0x80
  maxPower : UInt8 := 50
  deriving DecidableEq, Repr, Inhabited

/-- The descriptor of one alternate setting of an interface. -/
structure InterfaceDescriptor where
  length : UInt8 := 9
  descriptorType : UInt8 := 4
  interfaceNumber : UInt8 := 0
  alternateSetting : UInt8 := 0
  numEndpoints : UInt8 := 0
  interfaceClass : UInt8 := 0
  interfaceSubclass : UInt8 := 0
  interfaceProtocol : UInt8 := 0
  stringIndex : UInt8 := 0
  deriving DecidableEq, Repr, Inhabited

structure EndpointDescriptor where
  length : UInt8 := 7
  descriptorType : UInt8 := 5
  endpointAddress : UInt8 := 0
  attributes : UInt8 := 2
  maxPacketSize : UInt16 := 64
  interval : UInt8 := 0
  refresh : UInt8 := 0
  synchAddress : UInt8 := 0
  deriving DecidableEq, Repr, Inhabited

/-- SuperSpeed begins with USB 3.0. -/
def DeviceDescriptor.isSuperspeed (d : DeviceDescriptor) : Bool := 0x0300 ≤ d.usbVersion

namespace ConfigurationDescriptor

def selfPowered (d : ConfigurationDescriptor) : Bool := d.attributes &&& 0x40 != 0

def remoteWakeup (d : ConfigurationDescriptor) : Bool := d.attributes &&& 0x20 != 0

/-- The maximum draw in mA: the power field counts units of 8 mA at SuperSpeed, else of 2 mA. -/
def maxPowerMilliamps (d : ConfigurationDescriptor) (superspeed : Bool) : Nat :=
  d.maxPower.toNat * if superspeed then 8 else 2

end ConfigurationDescriptor

namespace EndpointDescriptor

def transferType (d : EndpointDescriptor) : TransferType := transferTypeOf d.attributes

def direction (d : EndpointDescriptor) : Direction := endpointDirection d.endpointAddress

def number (d : EndpointDescriptor) : UInt8 := endpointNumber d.endpointAddress

end EndpointDescriptor

end SerialBus
