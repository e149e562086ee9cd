import SerialBus.Descriptor.Field

/-! What can be wrong with a descriptor's bytes or with the value of a bit field. -/

namespace SerialBus

/-- The bit fields that can be read from a number. -/
inductive BitField
  | transferType
  | requestKind
  | recipient
  deriving DecidableEq, Repr

def BitField.text : BitField → String
  | .transferType => "transfer type"
  | .requestKind => "request type"
  | .recipient => "recipient"

inductive DescriptorError
  | invalidValue (field : BitField) (value : UInt8)
  | bufferTooSmall (needed available : Nat)
  | unexpectedType (expected actual : UInt8)
  | malformed (declared available : Nat)
  | invalidUtf16
  deriving DecidableEq, Repr

def DescriptorError.message : DescriptorError → String
  | .invalidValue field value => s!"Invalid {field.text} value: {Text.hexMarked 2 value.toNat}"
  | .bufferTooSmall needed available => s!"Buffer too small: needed {needed}, got {available}"
  | .unexpectedType expected actual =>
    s!"Unexpected descriptor type {Text.hexMarked 2 actual.toNat}" ++
      s!" (expected {Text.hexMarked 2 expected.toNat})"
  | .malformed declared available =>
    s!"Malformed descriptor: bLength {declared}, {available} bytes available"
  | .invalidUtf16 => "String descriptor is not valid UTF-16"

def TransferType.ofCode (value : UInt8) : Except DescriptorError TransferType :=
  match ofCode? value with
  | some kind => .ok kind
  | none => .error (.invalidValue .transferType value)

def RequestKind.ofCode (value : UInt8) : Except DescriptorError RequestKind :=
  match ofCode? value with
  | some kind => .ok kind
  | none => .error (.invalidValue .requestKind value)

def Recipient.ofCode (value : UInt8) : Except DescriptorError Recipient :=
  match ofCode? value with
  | some recipient => .ok recipient
  | none => .error (.invalidValue .recipient value)

end SerialBus
