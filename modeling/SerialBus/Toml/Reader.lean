import SerialBus.Toml.Document
import SerialBus.Toml.Number
import SerialBus.Toml.Text

/-! How a TOML document is read from a text. -/

namespace SerialBus.Toml

/-- How many brackets and braces may stand around a value, and how many parts a key may have. -/
def depthLimit : Nat := 79

def isBareKeyChar (c : Char) : Bool := c.isAlphanum || c == '_' || c == '-'

/-- One part of a key, between quotes or bare. -/
def keyPart : Scan String := do
  blanks
  let part ←
    if ← Scan.accept ['"'] then line '"'
    else if ← Scan.accept ['\''] then line '\''
    else
      let cs ← Scan.takeWhile isBareKeyChar
      if cs.isEmpty then failure
      pure (String.ofList cs)
  blanks
  return part

/-- The key with the parts; there must be one, and not too many. -/
def keyOf? (parts : List String) : Option Key := do
  if depthLimit < parts.length then none
  return ⟨parts.dropLast, ← parts.getLast?⟩

/-- Parts with dots between them. -/
def key : Scan Key := do
  let first ← keyPart
  let rest ← Scan.many do
    if ← Scan.accept ['.'] then return some (← keyPart)
    return none
  StateT.lift (keyOf? (first :: rest))

/-- The items of an array, from behind its opening bracket. -/
def arrayItems (item : Scan Toml) : Scan (List Toml) := do
  let items ← Scan.many do
    blankLines
    if ← Scan.startsWith [']'] then return none
    let value ← item
    blankLines
    if !(← Scan.accept [',']) then
      if !(← Scan.startsWith [']']) then failure
    return some value
  Scan.expect [']']
  return items

/-- A key and its value, where `item` reads the value. -/
def pair (item : Scan Toml) : Scan (Key × Toml) := do
  let key ← key
  Scan.expect ['=']
  blanks
  return (key, ← item)

/-- The entries of a table, from behind its opening brace. -/
def tableItems (item : Scan Toml) : Scan (List (Key × Toml)) := do
  blanks
  if ← Scan.accept ['}'] then return []
  let member : Scan (Key × Toml) := do
    let member ← pair item
    blanks
    return member
  let first ← member
  let rest ← Scan.many do
    if ← Scan.accept [','] then return some (← member)
    return none
  Scan.expect ['}']
  return first :: rest

/-- A value that holds no others. -/
def simpleValue : Scan Toml := do
  match ← Scan.peek with
  | some '"' => Scan.expect ['"']; return .string (← text '"')
  | some '\'' => Scan.expect ['\'']; return .string (← text '\'')
  | some 't' => Scan.expect ['t', 'r', 'u', 'e']; return .boolean true
  | some 'f' => Scan.expect ['f', 'a', 'l', 's', 'e']; return .boolean false
  | some _ => numberOrMoment
  | none => failure

/-- A value with at most `depth` brackets and braces around any part of it. -/
def value : Nat → Scan Toml
  | 0 => simpleValue
  | depth + 1 => do
    if ← Scan.accept ['['] then return .array (← arrayItems (value depth))
    if ← Scan.accept ['\x7b'] then
      return ← StateT.lift (inlineTable (← tableItems (value depth)))
    simpleValue

/-- The name in a header, from behind its opening bracket. -/
def header : Scan Statement := do
  if ← Scan.accept ['['] then
    let key ← key
    Scan.expect [']', ']']
    return .header .element key
  let key ← key
  Scan.expect [']']
  return .header .table key

/-- The statement on a line, if there is one. -/
def statement : Scan (Option Statement) := do
  match ← Scan.peek with
  | none => return none
  | some '#' => return none
  | some '\n' => return none
  | some '\r' => return none
  | some _ =>
    if ← Scan.accept ['['] then return some (← header)
    let (key, value) ← pair (value depthLimit)
    return some (.entry key value)

/-- The statements of all lines. -/
def statements : Scan (List Statement) := do
  let lines ← Scan.many do
    blanks
    if (← Scan.peek).isNone then return none
    let s ← statement
    lineEnd
    return some s
  return lines.reduceOption

/-- The document in a text, in front of which a byte order mark may stand. -/
def parse? (s : String) : Option Entries := do
  let cs := match s.toList with
    | '\ufeff' :: rest => rest
    | cs => cs
  ofStatements (← statements.run' cs)

end SerialBus.Toml
