import SerialBus.Json.Basic
import SerialBus.Text.Numeral

/-! How JSON values are read from a text. -/

namespace SerialBus

namespace Json

def isSpace (c : Char) : Bool := c == ' ' || c == '\t' || c == '\n' || c == '\r'

def skipSpace (cs : List Char) : List Char := cs.dropWhile isSpace

/-- The unit that four hexadecimal digits name. -/
def unitEscape : List Char → Option (UInt16 × List Char)
  | a :: b :: c :: d :: rest => do
    let n := (((← Text.hexDigit? a) * 16 + (← Text.hexDigit? b)) * 16 + (← Text.hexDigit? c)) * 16
    return ((n + (← Text.hexDigit? d)).toUInt16, rest)
  | _ => none

/-- The characters that a backslash and one letter stand for. -/
def shortEscape? : Char → Option Char
  | '"' => some '"'
  | '\\' => some '\\'
  | '/' => some '/'
  | 'b' => some '\x08'
  | 'f' => some '\x0c'
  | 'n' => some '\n'
  | 'r' => some '\r'
  | 't' => some '\t'
  | _ => none

/-- The units of a string up to its closing quote. -/
def stringBody : Nat → List Char → Option (List UInt16 × List Char)
  | 0, _ => none
  | _ + 1, [] => none
  | _ + 1, '"' :: rest => some ([], rest)
  | fuel + 1, '\\' :: 'u' :: rest => do
    let (unit, rest) ← unitEscape rest
    let (units, rest) ← stringBody fuel rest
    return (unit :: units, rest)
  | fuel + 1, '\\' :: c :: rest => do
    let c ← shortEscape? c
    let (units, rest) ← stringBody fuel rest
    return (Text.Utf16.unitsOf c ++ units, rest)
  | fuel + 1, c :: rest => do
    if c.toNat < 0x20 ∨ c = '\\' then none
    let (units, rest) ← stringBody fuel rest
    return (Text.Utf16.unitsOf c ++ units, rest)

/-- The digits at the front; there must be one at least. -/
def digits1 (cs : List Char) : Option (List Char × List Char) :=
  match cs.takeWhile Char.isDigit with
  | [] => none
  | ds => some (ds, cs.dropWhile Char.isDigit)

/-- The digits of an integer, which begins with 0 only if it is 0. -/
def integerDigits (cs : List Char) : Option (List Char × List Char) := do
  let (ds, rest) ← digits1 cs
  if ds.head? = some '0' ∧ 1 < ds.length then none
  return (ds, rest)

/-- What follows a fraction, and whether there is one. -/
def fraction : List Char → Option (Bool × List Char)
  | '.' :: rest => (digits1 rest).map fun r => (true, r.2)
  | cs => some (false, cs)

/-- What follows an exponent, and whether there is one. -/
def exponent : List Char → Option (Bool × List Char)
  | c :: rest =>
    if c = 'e' ∨ c = 'E' then
      let rest := match rest with
        | '+' :: r => r
        | '-' :: r => r
        | r => r
      (digits1 rest).map fun r => (true, r.2)
    else some (false, c :: rest)
  | [] => some (false, [])

def numeral (negative : Bool) (cs : List Char) : Option (Json × List Char) := do
  let (ds, rest) ← integerDigits cs
  let (hasFraction, rest) ← fraction rest
  let (hasExponent, rest) ← exponent rest
  let n : Nat ← Text.digitsFrom? 10 0 ds
  if hasFraction ∨ hasExponent ∨ (negative ∧ n = 0) then
    let written := cs.take (cs.length - rest.length)
    return (decimal (if negative then '-' :: written else written), rest)
  return (integer (if negative then -n else n), rest)

/-- The rest behind a word that stands at the front. -/
def word (w : List Char) (value : Json) (cs : List Char) : Option (Json × List Char) :=
  if w.isPrefixOf cs then some (value, cs.drop w.length) else none

mutual

def value : Nat → List Char → Option (Json × List Char)
  | 0, _ => none
  | fuel + 1, cs =>
    match skipSpace cs with
    | '"' :: rest =>
      (stringBody (rest.length + 1) rest).map fun (units, rest) => (string units, rest)
    | '[' :: rest =>
      match skipSpace rest with
      | ']' :: rest => some (array [], rest)
      | rest => (items fuel rest).map fun (l, rest) => (array l, rest)
    | '{' :: rest =>
      match skipSpace rest with
      | '}' :: rest => some (object [], rest)
      | rest => (members fuel rest).map fun (l, rest) => (object l, rest)
    | '-' :: rest => numeral true rest
    | 'n' :: rest => word ['u', 'l', 'l'] null rest
    | 't' :: rest => word ['r', 'u', 'e'] (bool true) rest
    | 'f' :: rest => word ['a', 'l', 's', 'e'] (bool false) rest
    | rest => numeral false rest

/-- The items of an array up to its closing bracket. -/
def items : Nat → List Char → Option (List Json × List Char)
  | 0, _ => none
  | fuel + 1, cs => do
    let (v, rest) ← value fuel cs
    match skipSpace rest with
    | ',' :: rest => (items fuel rest).map fun (l, rest) => (v :: l, rest)
    | ']' :: rest => some ([v], rest)
    | _ => none

/-- The members of an object up to its closing brace. -/
def members : Nat → List Char → Option (List (List UInt16 × Json) × List Char)
  | 0, _ => none
  | fuel + 1, cs =>
    match skipSpace cs with
    | '"' :: rest => do
      let (key, rest) ← stringBody (rest.length + 1) rest
      match skipSpace rest with
      | ':' :: rest => do
        let (v, rest) ← value fuel rest
        match skipSpace rest with
        | ',' :: rest => (members fuel rest).map fun (l, rest) => ((key, v) :: l, rest)
        | '}' :: rest => some ([(key, v)], rest)
        | _ => none
      | _ => none
    | _ => none

end

/-- The value that a text holds, with nothing but space around it. -/
def parse? (text : String) : Option Json := do
  let cs := text.toList
  let (v, rest) ← value (2 * cs.length + 2) cs
  if (skipSpace rest).isEmpty then some v else none

end Json

end SerialBus
