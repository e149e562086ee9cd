import SerialBus.Text.Numeral
import SerialBus.Toml.Scan

/-! The four forms of a string: basic and literal, each on one line or on several. -/

namespace SerialBus.Toml

/-- The scalar value that hexadecimal digits name. -/
def scalar (count : Nat) : Scan Char := do
  let n : Nat ← StateT.lift (Text.digitsFrom? 16 0 (← Scan.take count))
  if n.isValidChar then return Char.ofNat n
  failure

/-- What stands behind a backslash. -/
def escaped : Scan Char := do
  match ← Scan.next with
  | 'b' => return '\x08'
  | 't' => return '\t'
  | 'n' => return '\n'
  | 'f' => return '\x0c'
  | 'r' => return '\r'
  | '"' => return '"'
  | '\\' => return '\\'
  | 'u' => scalar 4
  | 'U' => scalar 8
  | _ => failure

/-- A backslash is to be read as the start of an escape. -/
def escapes (quote : Char) : Bool := quote == '"'

/-- The next character of a string on one line; nothing at the closing quote. -/
def lineChar (quote : Char) : Scan (Option Char) := do
  let c ← Scan.next
  if c = quote then return none
  if c = '\\' ∧ escapes quote then return some (← escaped)
  if isPlain c then return some c
  failure

/-- A string on one line, from behind its opening quote. -/
def line (quote : Char) : Scan String := do
  return String.ofList (← Scan.many (lineChar quote))

/-- Blanks and ends of lines behind a backslash that ends a line; none of them is in the string. -/
def continuation : Scan Unit := do
  blanks
  newline
  let _ ← Scan.many do
    match ← Scan.peek with
    | some '\n' => newline; return some ()
    | some '\r' => newline; return some ()
    | some c =>
      if isBlank c then
        blanks
        return some ()
      return none
    | none => return none

/-- The next characters of a string on several lines; nothing at three quotes. -/
def blockChars (quote : Char) : Scan (Option (List Char)) := do
  if ← Scan.startsWith [quote, quote, quote] then return none
  let c ← Scan.next
  if c = '\\' ∧ escapes quote then
    match ← Scan.optional continuation with
    | some () => return some []
    | none => return some [← escaped]
  if c = '\n' then return some ['\n']
  if c = '\r' then
    Scan.expect ['\n']
    return some ['\n']
  if isPlain c then return some [c]
  failure

/--
A string on several lines, from behind its opening quotes. A first end of line is left out, and up
to two quotes may stand in front of the closing three.
-/
def block (quote : Char) : Scan String := do
  let _ ← Scan.optional newline
  let body ← Scan.many (blockChars quote)
  let quotes ← Scan.takeWhile (· == quote)
  if 5 < quotes.length then failure
  return String.ofList (body.flatten ++ quotes.drop 3)

/-- A string on one line or on several, from behind its first quote. -/
def text (quote : Char) : Scan String := do
  if ← Scan.accept [quote, quote] then block quote else line quote

end SerialBus.Toml
