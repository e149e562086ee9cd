import SerialBus.Text.Digits
import SerialBus.Toml.Value

/-!
How strings and lists of strings are written in TOML. Of the forms that need no escapes the first is
taken; where there is none, control characters are escaped.
-/

namespace SerialBus.Toml

/-- The length of the longest run of a character. -/
def longestRun (c : Char) (cs : List Char) : Nat :=
  (cs.foldl (fun (best, run) d =>
    let run := if d = c then run + 1 else 0
    (max best run, run)) (0, 0)).1

/-- A control character other than a tab and a line feed. -/
def needsEscape (c : Char) : Bool := (c < ' ' && c != '\t' && c != '\n') || c == '\x7f'

inductive StringForm
  | basic
  | literal
  | basicBlock
  | literalBlock
  deriving DecidableEq, Repr, Inhabited

namespace StringForm

/-- The first form in which the text needs no escape; else a basic form. -/
def choose (cs : List Char) : StringForm :=
  let control := cs.any needsEscape
  let lines := cs.contains '\n'
  let backslash := cs.contains '\\'
  if !control && !lines && !backslash && longestRun '"' cs = 0 then basic
  else if !control && !lines && longestRun '\'' cs = 0 then literal
  else if !control && !backslash && longestRun '"' cs ≤ 2 then basicBlock
  else if !control && longestRun '\'' cs ≤ 2 then literalBlock
  else if lines then basicBlock
  else basic

def isBlock : StringForm → Bool
  | basicBlock | literalBlock => true
  | basic | literal => false

def delimiter : StringForm → List Char
  | basic => ['"']
  | literal => ['\'']
  | basicBlock => ['"', '"', '"']
  | literalBlock => ['\'', '\'', '\'']

end StringForm

/-- A character in a basic form; a line feed is kept in a block. -/
def escapeChar (block : Bool) (c : Char) : List Char :=
  match c with
  | '\x08' => ['\\', 'b']
  | '\t' => ['\\', 't']
  | '\x0c' => ['\\', 'f']
  | '\r' => ['\\', 'r']
  | '\\' => ['\\', '\\']
  | '\n' => if block then ['\n'] else ['\\', 'n']
  | c =>
    if needsEscape c then '\\' :: 'u' :: (Text.digits 16 4 c.toNat).map Char.toUpper else [c]

/-- The text in a basic form, where a quote is escaped that more than `quotes` others precede. -/
def escapeText (block : Bool) (quotes : Nat) : Nat → List Char → List Char
  | _, [] => []
  | run, '"' :: rest =>
    if run < quotes then '"' :: escapeText block quotes (run + 1) rest
    else '\\' :: '"' :: escapeText block quotes 0 rest
  | _, c :: rest => escapeChar block c ++ escapeText block quotes 0 rest

/-- A string; a block that has line feeds begins on a line of its own. -/
def renderText (s : String) : String :=
  let cs := s.toList
  let form := StringForm.choose cs
  let lead := if form.isBlock && cs.contains '\n' then ['\n'] else []
  let body := match form with
    | .basic => escapeText false 0 0 cs
    | .basicBlock => escapeText true 2 0 cs
    | .literal => cs
    | .literalBlock => cs
  String.ofList (form.delimiter ++ lead ++ body ++ form.delimiter)

/-- An array of strings; two or more stand on lines of their own. -/
def renderTexts : List String → String
  | [] => "[]"
  | [s] => s!"[{renderText s}]"
  | l => "[\n" ++ String.join (l.map fun s => s!"    {renderText s},\n") ++ "]"

end SerialBus.Toml
