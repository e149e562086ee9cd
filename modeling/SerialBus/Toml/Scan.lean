/-! Steps that read a text from its front. A step that fails ends the whole reading. -/

namespace SerialBus.Toml

abbrev Scan (α : Type) : Type := StateT (List Char) Option α

namespace Scan

variable {α : Type}

/-- The first character, which is not passed over. -/
def peek : Scan (Option Char) := fun cs => some (cs.head?, cs)

def next : Scan Char
  | [] => none
  | c :: cs => some (c, cs)

/-- The next `count` characters; there must be that many. -/
def take (count : Nat) : Scan (List Char) := fun cs =>
  if count ≤ cs.length then some (cs.take count, cs.drop count) else none

def takeWhile (test : Char → Bool) : Scan (List Char) := fun cs =>
  some (cs.takeWhile test, cs.dropWhile test)

def startsWith (word : List Char) : Scan Bool := fun cs => some (word.isPrefixOf cs, cs)

/-- Passes over the word if it stands at the front, and tells whether it did. -/
def accept (word : List Char) : Scan Bool := fun cs =>
  if word.isPrefixOf cs then some (true, cs.drop word.length) else some (false, cs)

/-- Passes over the first of the words that stands at the front, and tells whether one did. -/
def acceptOneOf : List (List Char) → Scan Bool
  | [] => return false
  | word :: words => do
    if ← accept word then return true
    acceptOneOf words

def expect (word : List Char) : Scan Unit := do
  if ← accept word then return
  failure

/-- What `step` reads; if it fails, nothing is passed over. -/
def optional (step : Scan α) : Scan (Option α) := fun cs =>
  match step cs with
  | some (a, rest) => some (some a, rest)
  | none => some (none, cs)

/-- What at most `fuel` steps read, up to the first that yields nothing. -/
def manyUpTo (step : Scan (Option α)) : Nat → Scan (List α)
  | 0 => failure
  | fuel + 1 => do
    match ← step with
    | none => return []
    | some a => return a :: (← manyUpTo step fuel)

/-- What steps read up to the first that yields nothing; each passes over a character or more. -/
def many (step : Scan (Option α)) : Scan (List α) := fun cs => manyUpTo step (cs.length + 1) cs

end Scan

/-- A space or a tab. -/
def isBlank (c : Char) : Bool := c == ' ' || c == '\t'

/-- A character that stands for itself: a tab, or anything but a control character. -/
def isPlain (c : Char) : Bool := c == '\t' || (' ' ≤ c && c != '\x7f')

def blanks : Scan Unit := do
  let _ ← Scan.takeWhile isBlank

/-- The end of a line, as a line feed that a carriage return may precede. -/
def newline : Scan Unit := do
  match ← Scan.next with
  | '\n' => return
  | '\r' => Scan.expect ['\n']
  | _ => failure

/-- The text behind a number sign, up to the end of the line. -/
def comment : Scan Unit := do
  if ← Scan.accept ['#'] then
    let _ ← Scan.takeWhile isPlain

/-- What may follow a statement on its line, with the end of the line or of the text. -/
def lineEnd : Scan Unit := do
  blanks
  comment
  if (← Scan.peek).isSome then newline

/-- Blanks, comments and ends of lines, as they may stand between the items of an array. -/
def blankLines : Scan Unit := do
  let _ ← Scan.many do
    match ← Scan.peek with
    | some '#' => comment; newline; return some ()
    | some '\n' => newline; return some ()
    | some '\r' => newline; return some ()
    | some c =>
      if isBlank c then
        blanks
        return some ()
      return none
    | none => return none

end SerialBus.Toml
