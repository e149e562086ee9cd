import SerialBus.Text.Utf16

/-! JSON values. -/

namespace SerialBus

/-- A JSON value. A string is kept as its UTF-16 units, which escapes may leave without a text. -/
inductive Json
  | null
  | bool (b : Bool)
  /-- A numeral without fraction and exponent; minus zero is not one of these. -/
  | integer (n : Int)
  /-- Any other numeral, as it is written. -/
  | decimal (numeral : List Char)
  | string (units : List UInt16)
  | array (items : List Json)
  | object (members : List (List UInt16 × Json))
  deriving Inhabited

namespace Json

def ofText (s : String) : Json := string (Text.Utf16.encode s.toList)

def ofNat (n : Nat) : Json := integer n

/-- A value that may be missing; null stands for none. -/
def ofOption {α : Type} (f : α → Json) : Option α → Json
  | none => null
  | some a => f a

/-- An object with the members, in their order. -/
def ofMembers (members : List (String × Json)) : Json :=
  object (members.map fun (name, v) => (Text.Utf16.encode name.toList, v))

/-- The object with the new values of those members that it has. -/
def replace (changes : List (String × Json)) : Json → Json
  | object l => object (l.map fun (key, v) =>
      (key, ((changes.find? fun c => Text.Utf16.encode c.1.toList = key).map (·.2)).getD v))
  | v => v

/-- The text of a string. -/
def text? : Json → Option String
  | string units => (Text.Utf16.decode? units).map String.ofList
  | _ => none

/-- A whole number below the bound. -/
def natBelow? (bound : Nat) : Json → Option Nat
  | integer n => if 0 ≤ n ∧ n < bound then some n.toNat else none
  | _ => none

end Json

end SerialBus
