import SerialBus.Descriptor.Error
import SerialBus.Text.Utf16

/-!
String descriptors: a length byte, the type byte 3 and little-endian 16-bit words, which are the
UTF-16 code units of a text or, at string index 0, the language identifiers of the device.
-/

namespace SerialBus.StringDescriptor

/-- The descriptor type of a string. -/
def typeCode : UInt8 := 3

/-- The longest descriptor that the length byte can announce. -/
def maxLength : Nat := 255

/-- The most words that fit behind the two bytes of the header. -/
def maxWords : Nat := (maxLength - 2) / 2

/-- US English, which devices usually list first. -/
def usEnglish : UInt16 := 0x0409

/-- The little-endian words of a byte string; an odd last byte is left out. -/
def wordsOf : List UInt8 → List UInt16
  | low :: high :: rest => (low.toUInt16 ||| (high.toUInt16 <<< 8)) :: wordsOf rest
  | _ => []

def bytesOf (words : List UInt16) : List UInt8 :=
  words.flatMap fun (w : UInt16) => [w.toUInt8, (w >>> 8).toUInt8]

/-- The bytes between the header and the announced length. -/
def payload (raw : List UInt8) : Except DescriptorError (List UInt8) :=
  match raw with
  | declared :: actual :: _ =>
    if actual ≠ typeCode then .error (.unexpectedType typeCode actual)
    else if declared.toNat < 2 ∨ raw.length < declared.toNat then
      .error (.malformed declared.toNat raw.length)
    else .ok ((raw.take declared.toNat).drop 2)
  | _ => .error (.bufferTooSmall 2 raw.length)

def decodeLangids (raw : List UInt8) : Except DescriptorError (List UInt16) :=
  (payload raw).map wordsOf

def decode (raw : List UInt8) : Except DescriptorError (List Char) := do
  match Text.Utf16.decode? (wordsOf (← payload raw)) with
  | some text => .ok text
  | none => .error .invalidUtf16

/-- The descriptor of as many of the words as fit. -/
def encodeLangids (words : List UInt16) : List UInt8 :=
  let body := bytesOf (words.take maxWords)
  (2 + body.length).toUInt8 :: typeCode :: body

/-- The descriptor of as many of the text's code units as fit. -/
def encode (text : List Char) : List UInt8 := encodeLangids (Text.Utf16.encode text)

end SerialBus.StringDescriptor
