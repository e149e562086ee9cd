import SerialBus.Probe.FieldPattern

/-!
Filters of log lines: directives between commas, each a level, a target, a span in brackets with a
field in braces, or one of the latter two with a level behind an equals sign.
-/

namespace SerialBus.LogFilter

/-- Why a text is no filter. -/
inductive Error
  | directive
  | level
  | field (e : PatternError)
  deriving DecidableEq, Repr, Inhabited

def Error.message : Error → String
  | .directive => "invalid filter directive"
  | .level =>
    "error parsing level filter: expected one of \"off\", \"error\", \"warn\", \"info\", " ++
      "\"debug\", \"trace\", or a number 0-5"
  | .field e => s!"invalid field filter: {e.message}"

def levelNames : List String := ["off", "error", "warn", "info", "debug", "trace"]

/-- Whether the text is a level: a name in either case of its letters, a number, or nothing. -/
def isLevel (cs : List Char) : Bool :=
  cs.isEmpty || levelNames.any (fun name => cs.map Char.toLower == name.toList) ||
    (Text.unsigned? 10 cs).any (· ≤ 5)

/-- The text behind `n` bytes. -/
def dropBytes : Nat → List Char → List Char
  | 0, cs => cs
  | _, [] => []
  | n, c :: cs => dropBytes (n - c.utf8Size) cs

/-- As many characters as have their first byte among the first `n`. -/
def takeBytes : Nat → List Char → List Char
  | 0, _ => []
  | _, [] => []
  | n, c :: cs => c :: takeBytes (n - c.utf8Size) cs

/-- Checks a field: a name, which may be anything, with a value behind an equals sign. -/
def checkField (cs : List Char) : Except Error Unit :=
  match cs.splitOn '=' with
  | _ :: value :: _ =>
    match checkValue value with
    | .ok () => .ok ()
    | .error e => .error (.field e)
  | _ => .ok ()

/-!
Each of the following reads on from behind `n` bytes of a directive without the blanks at its ends,
and tells how many bytes stand in front of the level, if there is one. What the parts of the
directive are is told by where they stand; their text is taken from the same places of `whole`,
which still has its blanks.
-/

/-- Behind the brackets of a span. -/
def afterSpan (n : Nat) : List Char → Except Error (Option Nat)
  | [] => .ok none
  | '=' :: _ => .ok (some (n + 1))
  | _ => .error .directive

/-- In a field that begins behind `start` bytes; it is checked at its end. -/
def inField (whole : List Char) (start n : Nat) : List Char → Except Error (Option Nat)
  | [] => .error .directive
  | '\x7d' :: rest => do
    if n = start then throw .directive
    checkField (takeBytes (n - start) (dropBytes start whole))
    match rest with
    | ']' :: rest => afterSpan (n + 2) rest
    | _ => throw .directive
  | c :: rest => inField whole start (n + c.utf8Size) rest

/-- Behind the opening bracket of a span. -/
def inSpan (whole : List Char) (n : Nat) : List Char → Except Error (Option Nat)
  | [] => .error .directive
  | ']' :: rest => afterSpan (n + 1) rest
  | '\x7b' :: rest => inField whole (n + 1) (n + 1) rest
  | c :: rest => inSpan whole (n + c.utf8Size) rest

/-- Behind the first characters of a level or a target. -/
def inName (whole : List Char) (n : Nat) : List Char → Except Error (Option Nat)
  | [] => .ok none
  | '=' :: _ => .ok (some (n + 1))
  | '[' :: rest => inSpan whole (n + 1) rest
  | c :: rest => inName whole (n + c.utf8Size) rest

def isNameStart (c : Char) : Bool := ['-', ':', '_'].contains c || Text.isAlphanumeric c

def start (whole : List Char) : List Char → Except Error (Option Nat)
  | [] => .error .directive
  | '[' :: rest => inSpan whole 1 rest
  | c :: rest => if isNameStart c then inName whole c.utf8Size rest else .error .directive

/-- Checks one directive: its shape first, with its field, and then its level. -/
def checkDirective (cs : List Char) : Except Error Unit := do
  match ← start cs (Text.trim cs) with
  | none => return
  | some n => if isLevel (dropBytes n cs) then return else throw .level

/-- Checks all directives but empty ones; the first that is wrong counts. -/
def check (filter : String) : Except Error Unit :=
  ((filter.toList.splitOn ',').filter (!·.isEmpty)).forM checkDirective

end SerialBus.LogFilter
