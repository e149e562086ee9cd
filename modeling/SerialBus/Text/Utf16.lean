/-! UTF-16 code units of a text, and the text of a list of code units. -/

namespace SerialBus.Text.Utf16

/-- The one or two code units of a scalar value. -/
def unitsOf (c : Char) : List UInt16 :=
  if c.toNat < 0x10000 then [c.toNat.toUInt16]
  else
    let offset := c.toNat - 0x10000
    [(0xD800 + offset / 0x400).toUInt16, (0xDC00 + offset % 0x400).toUInt16]

def encode (text : List Char) : List UInt16 := text.flatMap unitsOf

def isHighSurrogate (u : UInt16) : Bool := 0xD800 ≤ u.toNat && u.toNat < 0xDC00

def isLowSurrogate (u : UInt16) : Bool := 0xDC00 ≤ u.toNat && u.toNat < 0xE000

/-- The scalar value of a high and a low surrogate. -/
def joinSurrogates (high low : UInt16) : Char :=
  Char.ofNat (0x10000 + (high.toNat - 0xD800) * 0x400 + (low.toNat - 0xDC00))

/-- The text whose code units these are; none if a surrogate stands without its partner. -/
def decode? : List UInt16 → Option (List Char)
  | [] => some []
  | [u] => if isHighSurrogate u || isLowSurrogate u then none else some [Char.ofNat u.toNat]
  | u :: v :: rest =>
    if isHighSurrogate u then
      if isLowSurrogate v then (decode? rest).map (joinSurrogates u v :: ·) else none
    else if isLowSurrogate u then none
    else (decode? (v :: rest)).map (Char.ofNat u.toNat :: ·)

end SerialBus.Text.Utf16
