import SerialBus.Text.Digits
import SerialBus.Text.Numeral

/-! Byte strings as they are typed and shown: two hexadecimal digits for each byte. -/

namespace SerialBus.Text.HexBytes

/-- Why a text is no byte string. -/
inductive Error
  | notHex (text : List Char)
  | oddDigits (text : List Char)
  deriving DecidableEq, Repr

def Error.message : Error → String
  | .notHex text => s!"'{String.ofList text}' is not valid hex"
  | .oddDigits text => s!"'{String.ofList text}' has an odd number of hex digits"

def isSeparator (c : Char) : Bool := isBlank c || c == ':' || c == ','

/-- The digits in a text: its separators and then one marker `0x` are left out. -/
def digitsOf (cs : List Char) : List Char :=
  match cs.filter (!isSeparator ·) with
  | '0' :: 'x' :: rest => rest
  | digits => digits

/-- The bytes of pairs of digits. -/
def pairs? : List Char → Option (List UInt8)
  | [] => some []
  | [_] => none
  | high :: low :: rest => do
    let byte := (← hexDigit? high) * 16 + (← hexDigit? low)
    return byte.toUInt8 :: (← pairs? rest)

def parse (cs : List Char) : Except Error (List UInt8) :=
  let digits := digitsOf cs
  if digits.any fun c => (hexDigit? c).isNone then .error (.notHex cs)
  else if digits.length % 2 ≠ 0 then .error (.oddDigits cs)
  else
    match pairs? digits with
    | some bytes => .ok bytes
    | none => .error (.notHex cs)

/-- The bytes with blanks between them. -/
def render (bytes : List UInt8) : String := " ".intercalate (bytes.map hexByte)

/-- The bytes with nothing between them. -/
def renderPlain (bytes : List UInt8) : String := String.join (bytes.map hexByte)

end SerialBus.Text.HexBytes
