import SerialBus.Descriptor.Field

/-! Names of descriptor types and of device and interface classes. -/

namespace SerialBus

def descriptorTypeName : UInt8 → String
  | 0x01 => "Device"
  | 0x02 => "Configuration"
  | 0x03 => "String"
  | 0x04 => "Interface"
  | 0x05 => "Endpoint"
  | 0x06 => "Device Qualifier"
  | 0x07 => "Other Speed Configuration"
  | 0x08 => "Interface Power"
  | 0x0B => "Interface Association"
  | 0x0F => "BOS"
  | 0x10 => "Device Capability"
  | 0x21 => "HID"
  | 0x24 => "Class-specific Interface"
  | 0x25 => "Class-specific Endpoint"
  | 0x30 => "SuperSpeed Endpoint Companion"
  | _ => "Unknown"

def deviceClassName : UInt8 → String
  | 0x00 => "Specified at interface descriptor"
  | 0x02 => "Communications and CDC Control"
  | 0x09 => "Hub"
  | 0x0F => "Personal Healthcare"
  | 0x10 => "Audio/Video Devices"
  | 0x11 => "Billboard Device"
  | 0xDC => "Diagnostic Device"
  | 0xEF => "Miscellaneous"
  | 0xFF => "Vendor Specific"
  | _ => "Unknown"

def interfaceClassName : UInt8 → String
  | 0x01 => "Audio"
  | 0x02 => "Communications and CDC Control"
  | 0x03 => "Human Interface Device"
  | 0x05 => "Physical"
  | 0x06 => "Image"
  | 0x07 => "Printer"
  | 0x08 => "Mass Storage"
  | 0x0A => "CDC Data"
  | 0x0B => "Smart Card"
  | 0x0D => "Content Security"
  | 0x0E => "Video"
  | 0x0F => "Personal Healthcare"
  | 0x10 => "Audio/Video Devices"
  | 0x12 => "USB Type-C Bridge"
  | 0xDC => "Diagnostic Device"
  | 0xE0 => "Wireless Controller"
  | 0xEF => "Miscellaneous"
  | 0xFE => "Application Specific"
  | 0xFF => "Vendor Specific"
  | _ => "Unknown"

/-- The name of the transfer type in an endpoint's attributes. -/
def transferTypeName (attributes : UInt8) : String := (transferTypeOf attributes).text

end SerialBus
