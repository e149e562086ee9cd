import SerialBus.Text.Blank

/-! Numbers as they are typed: in decimal, or in hexadecimal behind the marker `0x`. -/

namespace SerialBus.Text

/-- Why a text is no number of the wanted size. -/
inductive NumeralError
  | notSixteenBit (text : List Char)
  | notByte (text : List Char)
  deriving DecidableEq, Repr

def NumeralError.message : NumeralError → String
  | .notSixteenBit text => s!"'{String.ofList text}' is not a 16-bit number"
  | .notByte text => s!"'{String.ofList text}' does not fit in a byte"

/-- The value of a hexadecimal digit in either case. -/
def hexDigit? (c : Char) : Option Nat :=
  if c.isDigit then some (c.toNat - 48)
  else if 'a' ≤ c ∧ c ≤ 'f' then some (c.toNat - 87)
  else if 'A' ≤ c ∧ c ≤ 'F' then some (c.toNat - 55)
  else none

/-- The value of a digit in a base of at most 16. -/
def digit? (base : Nat) (c : Char) : Option Nat := (hexDigit? c).filter (· < base)

/-- The number whose digits follow those of `n`. -/
def digitsFrom? (base n : Nat) : List Char → Option Nat
  | [] => some n
  | c :: rest => do digitsFrom? base (n * base + (← digit? base c)) rest

/-- The value of one or more digits, which a plus sign may precede. -/
def unsigned? (base : Nat) : List Char → Option Nat
  | [] => none
  | ['+'] => none
  | '+' :: cs => digitsFrom? base 0 cs
  | cs => digitsFrom? base 0 cs

/-- The value of a text without blanks around it. -/
def numeral? : List Char → Option Nat
  | '0' :: 'x' :: cs => unsigned? 16 cs
  | '0' :: 'X' :: cs => unsigned? 16 cs
  | cs => unsigned? 10 cs

/-- A number of at most 16 bits. -/
def parseWord (cs : List Char) : Except NumeralError UInt16 :=
  let text := trim cs
  match numeral? text with
  | some n => if n < 65536 then .ok n.toUInt16 else .error (.notSixteenBit text)
  | none => .error (.notSixteenBit text)

/-- A number of at most 8 bits. -/
def parseByte (cs : List Char) : Except NumeralError UInt8 := do
  let n ← parseWord cs
  if n < 256 then .ok n.toUInt8 else .error (.notByte (trim cs))

end SerialBus.Text
