/-! Numerals padded to a width, in decimal and in lower-case hexadecimal. -/

namespace SerialBus.Text

/-- The digits of `n` in base `base`, filled with zeros on the left to at least `width`. -/
def digits (base width n : Nat) : List Char :=
  let ds := Nat.toDigits base n
  List.replicate (width - ds.length) '0' ++ ds

def decimal (width n : Nat) : String := String.ofList (digits 10 width n)

def hex (width n : Nat) : String := String.ofList (digits 16 width n)

/-- Hexadecimal with the marker `0x` in front of at least `width` digits. -/
def hexMarked (width n : Nat) : String := "0x" ++ hex width n

/-- A byte as its two hexadecimal digits. -/
def hexByte (b : UInt8) : String := hex 2 b.toNat

end SerialBus.Text
