import SerialBus.Json.Basic
import SerialBus.Text.Digits

/-! How JSON values are written: each item and member on its own line, indented by its depth. -/

namespace SerialBus.Json

/-- The escape that names a unit by its hexadecimal digits. -/
def unitText (u : UInt16) : List Char := '\\' :: 'u' :: Text.digits 16 4 u.toNat

/-- A unit that is no part of a surrogate pair. -/
def escapeUnit (u : UInt16) : List Char :=
  if Text.Utf16.isHighSurrogate u || Text.Utf16.isLowSurrogate u then unitText u
  else
    match Char.ofNat u.toNat with
    | '"' => ['\\', '"']
    | '\\' => ['\\', '\\']
    | '\x08' => ['\\', 'b']
    | '\x0c' => ['\\', 'f']
    | '\n' => ['\\', 'n']
    | '\r' => ['\\', 'r']
    | '\t' => ['\\', 't']
    | c => if c < ' ' then unitText u else [c]

def escapeUnits : List UInt16 → List Char
  | [] => []
  | [u] => escapeUnit u
  | u :: v :: rest =>
    if Text.Utf16.isHighSurrogate u && Text.Utf16.isLowSurrogate v then
      Text.Utf16.joinSurrogates u v :: escapeUnits rest
    else escapeUnit u ++ escapeUnits (v :: rest)

def quote (units : List UInt16) : List Char := '"' :: escapeUnits units ++ ['"']

/-- The start of a line at a depth. -/
def newLine (depth : Nat) : List Char := '\n' :: List.replicate (2 * depth) ' '

mutual

/-- The characters of a value whose first line begins at a depth. -/
def pretty (depth : Nat) : Json → List Char
  | null => "null".toList
  | bool b => (if b then "true" else "false").toList
  | integer n => (toString n).toList
  | decimal numeral => numeral
  | string units => quote units
  | array [] => ['[', ']']
  | array (v :: rest) =>
    '[' :: newLine (depth + 1) ++ pretty (depth + 1) v ++ prettyItems (depth + 1) rest ++
      newLine depth ++ [']']
  | object [] => ['\x7b', '\x7d']
  | object ((key, v) :: rest) =>
    '\x7b' :: newLine (depth + 1) ++ quote key ++ [':', ' '] ++ pretty (depth + 1) v ++
      prettyMembers (depth + 1) rest ++ newLine depth ++ ['\x7d']

/-- The items behind the first. -/
def prettyItems (depth : Nat) : List Json → List Char
  | [] => []
  | v :: rest => ',' :: newLine depth ++ pretty depth v ++ prettyItems depth rest

/-- The members behind the first. -/
def prettyMembers (depth : Nat) : List (List UInt16 × Json) → List Char
  | [] => []
  | (key, v) :: rest =>
    ',' :: newLine depth ++ quote key ++ [':', ' '] ++ pretty depth v ++ prettyMembers depth rest

end

def render (v : Json) : String := String.ofList (pretty 0 v)

end SerialBus.Json
