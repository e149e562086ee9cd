import SerialBus.Descriptor.Basic

/-! Descriptors of simple devices, for describing a bus without writing out every field. -/

namespace SerialBus.Sample

/-- The device address given to the `n`-th sample: 1 to 127, over and over, from an 8-bit count. -/
def address (n : Nat) : UInt8 := (n % 256 % 127 + 1).toUInt8

def device (vendorId productId : UInt16) (address : UInt8) : DeviceDescriptor :=
  { vendorId, productId, numConfigurations := 1, manufacturerIndex := 1, productIndex := 2,
    serialNumberIndex := 3, bus := some 1, address := some address, portNumber := some 1 }

def deviceOfClass (vendorId productId : UInt16) (deviceClass deviceSubclass deviceProtocol : UInt8)
    (address : UInt8) : DeviceDescriptor :=
  { device vendorId productId address with deviceClass, deviceSubclass, deviceProtocol }

def configuration (configurationValue numInterfaces : UInt8) : ConfigurationDescriptor :=
  { configurationValue, numInterfaces, totalLength := 9 + numInterfaces.toUInt16 * 9 }

/-- A vendor-specific interface. -/
def interface (interfaceNumber alternateSetting numEndpoints : UInt8) : InterfaceDescriptor :=
  { interfaceNumber, alternateSetting, numEndpoints, interfaceClass := 0xFF }

def endpoint (endpointAddress : UInt8) (kind : TransferType) (maxPacketSize : UInt16)
    (interval : UInt8) : EndpointDescriptor :=
  { endpointAddress, attributes := kind.code, maxPacketSize, interval }

def bulkEndpoint (address : UInt8) : EndpointDescriptor := endpoint address .bulk 64 0

def interruptEndpoint (address interval : UInt8) : EndpointDescriptor :=
  endpoint address .interrupt 8 interval

def isochronousEndpoint (address : UInt8) : EndpointDescriptor :=
  endpoint address .isochronous 1023 1

/-- The bytes 0, 1, 2, …, beginning again after 255. -/
def payload (size : Nat) : List UInt8 := (List.range size).map Nat.toUInt8

end SerialBus.Sample
