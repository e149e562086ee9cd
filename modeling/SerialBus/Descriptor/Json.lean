import SerialBus.Backend.Kind
import SerialBus.Descriptor.Basic
import SerialBus.Json.Basic

/-!
Descriptors and enumerations in JSON. A record is written as an object; it is read from an object,
or from an array of its fields in their order. Members that a record does not know are passed over,
and none that it knows comes twice.
-/

namespace SerialBus.Json

/-- The members of a record by their names. -/
abbrev Members := List (String × Json)

/-- The members that belong to the named fields. -/
def knownMembers (names : List String) : List (List UInt16 × Json) → Option Members
  | [] => some []
  | (key, v) :: rest => do
    let key ← (string key).text?
    let known ← knownMembers names rest
    if key ∉ names then return known
    if (known.lookup key).isSome then none
    return (key, v) :: known

/-- The members of a record with the named fields. -/
def record (names : List String) : Json → Option Members
  | object l => knownMembers names l
  | array l => if l.length ≤ names.length then some (names.zip l) else none
  | _ => none

namespace Members

def word (m : Members) (name : String) : Option UInt16 := do
  return (← (← m.lookup name).natBelow? 65536).toUInt16

def byte (m : Members) (name : String) : Option UInt8 := do
  return (← (← m.lookup name).natBelow? 256).toUInt8

/-- A byte that may be missing. -/
def byteOr (m : Members) (name : String) (missing : UInt8) : Option UInt8 :=
  match m.lookup name with
  | none => some missing
  | some _ => m.byte name

/-- A byte that may be missing or null. -/
def optionalByte (m : Members) (name : String) : Option (Option UInt8) :=
  match m.lookup name with
  | none => some none
  | some null => some none
  | some _ => (m.byte name).map some

end Members

def deviceFields : List String :=
  ["length", "descriptor_type", "usb_version", "device_class", "device_subclass",
   "device_protocol", "max_packet_size_0", "vendor_id", "product_id", "device_version",
   "manufacturer_index", "product_index", "serial_number_index", "num_configurations", "bus",
   "address", "port_number"]

def ofByte (b : UInt8) : Json := ofNat b.toNat

def ofWord (w : UInt16) : Json := ofNat w.toNat

def ofDevice (d : DeviceDescriptor) : Json :=
  ofMembers (deviceFields.zip
    [ofByte d.length, ofByte d.descriptorType, ofWord d.usbVersion, ofByte d.deviceClass,
     ofByte d.deviceSubclass, ofByte d.deviceProtocol, ofByte d.maxPacketSize0, ofWord d.vendorId,
     ofWord d.productId, ofWord d.deviceVersion, ofByte d.manufacturerIndex, ofByte d.productIndex,
     ofByte d.serialNumberIndex, ofByte d.numConfigurations, ofOption ofByte d.bus,
     ofOption ofByte d.address, ofOption ofByte d.portNumber])

def toDevice? (j : Json) : Option DeviceDescriptor := do
  let m ← record deviceFields j
  return {
    length := ← m.byte "length"
    descriptorType := ← m.byte "descriptor_type"
    usbVersion := ← m.word "usb_version"
    deviceClass := ← m.byte "device_class"
    deviceSubclass := ← m.byte "device_subclass"
    deviceProtocol := ← m.byte "device_protocol"
    maxPacketSize0 := ← m.byte "max_packet_size_0"
    vendorId := ← m.word "vendor_id"
    productId := ← m.word "product_id"
    deviceVersion := ← m.word "device_version"
    manufacturerIndex := ← m.byte "manufacturer_index"
    productIndex := ← m.byte "product_index"
    serialNumberIndex := ← m.byte "serial_number_index"
    numConfigurations := ← m.byte "num_configurations"
    bus := ← m.optionalByte "bus"
    address := ← m.optionalByte "address"
    portNumber := ← m.optionalByte "port_number" }

def configurationFields : List String :=
  ["length", "descriptor_type", "total_length", "num_interfaces", "configuration_value",
   "string_index", "attributes", "max_power"]

def ofConfiguration (d : ConfigurationDescriptor) : Json :=
  ofMembers (configurationFields.zip
    [ofByte d.length, ofByte d.descriptorType, ofWord d.totalLength, ofByte d.numInterfaces,
     ofByte d.configurationValue, ofByte d.stringIndex, ofByte d.attributes, ofByte d.maxPower])

def toConfiguration? (j : Json) : Option ConfigurationDescriptor := do
  let m ← record configurationFields j
  return {
    length := ← m.byte "length"
    descriptorType := ← m.byte "descriptor_type"
    totalLength := ← m.word "total_length"
    numInterfaces := ← m.byte "num_interfaces"
    configurationValue := ← m.byte "configuration_value"
    stringIndex := ← m.byte "string_index"
    attributes := ← m.byte "attributes"
    maxPower := ← m.byte "max_power" }

def interfaceFields : List String :=
  ["length", "descriptor_type", "interface_number", "alternate_setting", "num_endpoints",
   "interface_class", "interface_subclass", "interface_protocol", "string_index"]

def ofInterface (d : InterfaceDescriptor) : Json :=
  ofMembers (interfaceFields.zip
    [ofByte d.length, ofByte d.descriptorType, ofByte d.interfaceNumber, ofByte d.alternateSetting,
     ofByte d.numEndpoints, ofByte d.interfaceClass, ofByte d.interfaceSubclass,
     ofByte d.interfaceProtocol, ofByte d.stringIndex])

def toInterface? (j : Json) : Option InterfaceDescriptor := do
  let m ← record interfaceFields j
  return {
    length := ← m.byte "length"
    descriptorType := ← m.byte "descriptor_type"
    interfaceNumber := ← m.byte "interface_number"
    alternateSetting := ← m.byte "alternate_setting"
    numEndpoints := ← m.byte "num_endpoints"
    interfaceClass := ← m.byte "interface_class"
    interfaceSubclass := ← m.byte "interface_subclass"
    interfaceProtocol := ← m.byte "interface_protocol"
    stringIndex := ← m.byte "string_index" }

def endpointFields : List String :=
  ["length", "descriptor_type", "endpoint_address", "attributes", "max_packet_size", "interval",
   "refresh", "synch_address"]

def ofEndpoint (d : EndpointDescriptor) : Json :=
  ofMembers (endpointFields.zip
    [ofByte d.length, ofByte d.descriptorType, ofByte d.endpointAddress, ofByte d.attributes,
     ofWord d.maxPacketSize, ofByte d.interval, ofByte d.refresh, ofByte d.synchAddress])

def toEndpoint? (j : Json) : Option EndpointDescriptor := do
  let m ← record endpointFields j
  return {
    length := ← m.byte "length"
    descriptorType := ← m.byte "descriptor_type"
    endpointAddress := ← m.byte "endpoint_address"
    attributes := ← m.byte "attributes"
    maxPacketSize := ← m.word "max_packet_size"
    interval := ← m.byte "interval"
    refresh := ← m.byteOr "refresh" 0
    synchAddress := ← m.byteOr "synch_address" 0 }

/-- The name of an enumeration's member: a string, or an object that maps it to null. -/
def memberName? : Json → Option String
  | string units => (string units).text?
  | object [(key, null)] => (string key).text?
  | _ => none

/-- The member that the name is given to. -/
def member? {α : Type} (names : List (String × α)) (j : Json) : Option α := do
  names.lookup (← memberName? j)

def toDirection? : Json → Option Direction := member? [("Out", .toDevice), ("In", .toHost)]

def toTransferType? : Json → Option TransferType :=
  member? [("Control", .control), ("Isochronous", .isochronous), ("Bulk", .bulk),
    ("Interrupt", .interrupt)]

def toRequestKind? : Json → Option RequestKind :=
  member? [("Standard", .standard), ("Class", .classSpecific), ("Vendor", .vendor),
    ("Reserved", .reserved)]

def toRecipient? : Json → Option Recipient :=
  member? [("Device", .device), ("Interface", .interface), ("Endpoint", .endpoint),
    ("Other", .other)]

def toBackendKind? : Json → Option BackendKind :=
  member? (BackendKind.priority.map fun kind => (kind.name, kind))

end SerialBus.Json
