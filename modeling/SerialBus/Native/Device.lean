import SerialBus.Table

/-! The devices of a simulated libusb: the raw fields of their descriptors and their behaviour. -/

namespace SerialBus.Native

structure Endpoint where
  address : UInt8
  attributes : UInt8
  maxPacketSize : UInt16
  interval : UInt8
  deriving DecidableEq, Repr, Inhabited

/-- One alternate setting of an interface. -/
structure Alternate where
  number : UInt8 := 0
  alternate : UInt8 := 0
  interfaceClass : UInt8 := 255
  interfaceSubclass : UInt8 := 0
  interfaceProtocol : UInt8 := 0
  stringIndex : UInt8 := 0
  endpoints : List Endpoint := []
  deriving DecidableEq, Repr, Inhabited

structure Configuration where
  value : UInt8 := 1
  attributes : UInt8 := 128
  maxPower : UInt8 := 50
  stringIndex : UInt8 := 0
  interfaces : List (List Alternate) := []
  deriving DecidableEq, Repr, Inhabited

/-- A device as it is attached. -/
structure Device where
  bus : UInt8 := 1
  address : UInt8 := 1
  port : UInt8 := 1
  usbVersion : UInt16 := 512
  deviceVersion : UInt16 := 256
  deviceClass : UInt8 := 0
  deviceSubclass : UInt8 := 0
  deviceProtocol : UInt8 := 0
  maxPacketSize0 : UInt8 := 64
  vendorId : UInt16 := 0
  productId : UInt16 := 0
  manufacturerIndex : UInt8 := 0
  productIndex : UInt8 := 0
  serialNumberIndex : UInt8 := 0
  configurations : List Configuration := []
  /-- The declared number of configurations, which may differ from that of the list. -/
  numConfigurations : UInt8 := configurations.length.toUInt8
  /-- The value that a new handle reports as active. -/
  active : UInt8 := (configurations.head?.map Configuration.value).getD 0
  kernelDrivers : ByteSet := ∅
  /-- The replies to requests for the strings 0, 1, …. -/
  strings : List (List UInt8) := []
  deriving DecidableEq

end SerialBus.Native
