import SerialBus.Descriptor.Basic
import SerialBus.Table

/-! Descriptions of the devices of a loopback bus. -/

namespace SerialBus.Loopback

/-- One alternate setting of an interface, with its endpoints. -/
structure Alternate where
  descriptor : InterfaceDescriptor
  endpoints : List EndpointDescriptor
  deriving DecidableEq, Repr, Inhabited

/-- One configuration; each member of `interfaces` lists the alternates of one interface. -/
structure Configuration where
  descriptor : ConfigurationDescriptor
  interfaces : List (List Alternate)
  deriving DecidableEq, Repr, Inhabited

namespace Configuration

/-- A configuration without interfaces. -/
def ofDescriptor (descriptor : ConfigurationDescriptor) : Configuration :=
  ⟨{ descriptor with numInterfaces := 0 }, []⟩

/-- All alternates, interface after interface. -/
def alternates (c : Configuration) : List Alternate := c.interfaces.flatten

/-- The interfaces with `a` put behind the alternates that share its interface number. -/
def place (a : Alternate) : List (List Alternate) → List (List Alternate)
  | [] => [[a]]
  | group :: rest =>
    if group.head?.any fun b => b.descriptor.interfaceNumber == a.descriptor.interfaceNumber then
      (group ++ [a]) :: rest
    else group :: place a rest

/-- The bytes of the whole tree: 9 for it, 9 for each alternate and 7 for each endpoint. -/
def wireLength (interfaces : List (List Alternate)) : Nat :=
  9 + (interfaces.flatten.map fun a => 9 + 7 * a.endpoints.length).foldr (· + ·) 0

/-- The configuration with one more alternate; all counts in descriptors follow. -/
def addInterface (c : Configuration) (descriptor : InterfaceDescriptor)
    (endpoints : List EndpointDescriptor) : Configuration :=
  let a : Alternate := ⟨{ descriptor with numEndpoints := endpoints.length.toUInt8 }, endpoints⟩
  let interfaces := place a c.interfaces
  { descriptor := { c.descriptor with
      numInterfaces := interfaces.length.toUInt8
      totalLength := (wireLength interfaces).toUInt16 }
    interfaces }

end Configuration

/-- A simulated device as it is plugged in. -/
structure Device where
  descriptor : DeviceDescriptor
  configurations : List Configuration
  /-- The texts of string indices 1, 2, …. -/
  strings : List (List Char)
  /-- The reply to string index 0, where it is not the table of US English alone. -/
  langidTable : Option (List UInt8)
  /-- The configuration value reported before one is selected. -/
  initialConfiguration : UInt8
  /-- Whether the configuration can be read back. -/
  reportsConfiguration : Bool
  kernelDrivers : ByteSet
  deriving DecidableEq

namespace Device

/-- A device without configurations. -/
def ofDescriptor (descriptor : DeviceDescriptor) : Device where
  descriptor := { descriptor with numConfigurations := 0 }
  configurations := []
  strings := []
  langidTable := none
  initialConfiguration := 0
  reportsConfiguration := true
  kernelDrivers := ∅

/-- The device with one more configuration; the first one is active at the start. -/
def addConfiguration (d : Device) (c : Configuration) : Device :=
  let configurations := d.configurations ++ [c]
  { d with
    initialConfiguration :=
      if d.configurations.isEmpty then c.descriptor.configurationValue else d.initialConfiguration
    configurations
    descriptor := { d.descriptor with numConfigurations := configurations.length.toUInt8 } }

/-- A vendor-specific device with the bulk endpoints 0x01 and 0x81. -/
def bulkLoopback (vendorId productId : UInt16) : Device :=
  let d := ofDescriptor
    { vendorId, productId, manufacturerIndex := 1, productIndex := 2, serialNumberIndex := 3,
      bus := some 1, address := some 1, portNumber := some 1 }
  let c := (Configuration.ofDescriptor {}).addInterface { interfaceClass := 0xFF }
    [{ endpointAddress := 0x01 }, { endpointAddress := 0x81 }]
  { d.addConfiguration c with
    strings := ["usb-host".toList, "Loopback".toList, "0001".toList] }

/-- The first configuration with the value. -/
def configurationByValue? (d : Device) (value : UInt8) : Option Configuration :=
  d.configurations.find? fun c => c.descriptor.configurationValue == value

end Device

end SerialBus.Loopback
