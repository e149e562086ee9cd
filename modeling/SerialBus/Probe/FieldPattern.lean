import SerialBus.Text.Alphanumeric
import SerialBus.Text.Blank
import SerialBus.Text.Numeral

/-!
Regular expressions for the values of fields, read as far as it takes to tell whether one can be
used. They are written in braces, between commas and behind an equals sign, so that neither a
closing brace nor a comma nor an equals sign is ever part of one, and counted repetitions are never
complete. There are no tables of Unicode's properties for them: the classes and the folding of case
that would need one cannot be used.
-/

namespace SerialBus.LogFilter

/-- Why a regular expression cannot be used. -/
inductive PatternError
  | malformed
  /-- The boundaries of words are searched for among all letters of Unicode. -/
  | wordBoundary
  deriving DecidableEq, Repr, Inhabited

def PatternError.message : PatternError → String
  | .malformed => "error building NFA"
  | .wordBoundary =>
    "unsupported regex feature for DFAs: cannot build DFAs for regexes with Unicode word " ++
      "boundaries; switch to ASCII word boundaries, or heuristically enable Unicode word " ++
      "boundaries or use a different regex engine"

namespace Pattern

/-- The switches that decide what an expression may hold. -/
structure Mode where
  unicode : Bool := true
  foldCase : Bool := false
  /-- Whether blanks and comments are passed over. -/
  spaced : Bool := false
  deriving DecidableEq, Repr, Inhabited

/-- A part that is written as one character or as an escape. -/
inductive Atom
  /-- A character, which stands for itself or is given as a byte. -/
  | literal (c : Char) (isByte : Bool)
  | boundary (ofWord : Bool)
  /-- Digits, blanks or the characters of words, or all others. -/
  | letterClass (negated : Bool)
  deriving DecidableEq, Repr, Inhabited

namespace Mode

/-- Whether the atom can stand outside of brackets. A byte beyond ASCII is no text by itself. -/
def admits (m : Mode) : Atom → Bool
  | .literal c isByte => if m.unicode then !m.foldCase else !(isByte && 0x7F < c.toNat)
  | .boundary _ => true
  | .letterClass negated => !m.unicode && !negated

/-- Whether the atom can stand in brackets. -/
def admitsMember (m : Mode) : Atom → Bool
  | .literal c _ => if m.unicode then !m.foldCase else c.toNat ≤ 0x7F
  | .boundary _ => false
  | .letterClass negated => !m.unicode && !negated

/-- Whether a class of ASCII characters can be named in brackets. -/
def admitsNamed (m : Mode) (negated : Bool) : Bool := if m.unicode then !m.foldCase else !negated

/-- The mode after switches, of which those behind a minus sign are turned off. -/
def switch (m : Mode) (switches : List Char) : Mode :=
  let on := switches.takeWhile (· != '-')
  let off := switches.dropWhile (· != '-')
  let value (c : Char) (old : Bool) : Bool := on.contains c || (old && !off.contains c)
  ⟨value 'u' m.unicode, value 'i' m.foldCase, value 'x' m.spaced⟩

end Mode

/-- What follows blanks and comments, from within a comment or not. -/
def dropSpace (inComment : Bool) : List Char → List Char
  | [] => []
  | c :: cs =>
    if inComment then dropSpace (c != '\n') cs
    else if Text.isBlank c then dropSpace false cs
    else if c = '#' then dropSpace true cs
    else c :: cs

def skip (m : Mode) (cs : List Char) : List Char := if m.spaced then dropSpace false cs else cs

/-- The number that hexadecimal digits continue. -/
def hexDigits (m : Mode) : (count n : Nat) → List Char → Option (Nat × List Char)
  | 0, n, cs => some (n, cs)
  | count + 1, n, cs =>
    match skip m cs with
    | [] => none
    | c :: cs => do hexDigits m count (n * 16 + (← Text.hexDigit? c)) cs

def hexChar (m : Mode) (count : Nat) (cs : List Char) : Option (Char × List Char) := do
  let (n, cs) ← hexDigits m count 0 cs
  if n.isValidChar then some (Char.ofNat n, cs) else none

/-- An ASCII character that stands for itself behind a backslash. -/
def isEscapable (c : Char) : Bool :=
  c.toNat ≤ 0x7F && !c.isAlphanum && c != '<' && c != '>'

/-- What a backslash makes of the characters behind it. -/
def escape (m : Mode) : List Char → Option (Atom × List Char)
  | [] => none
  | 'x' :: cs => (hexChar m 2 cs).map fun (c, cs) => (.literal c true, cs)
  | 'u' :: cs => (hexChar m 4 cs).map fun (c, cs) => (.literal c false, cs)
  | 'U' :: cs => (hexChar m 8 cs).map fun (c, cs) => (.literal c false, cs)
  | 'd' :: cs | 's' :: cs | 'w' :: cs => some (.letterClass false, cs)
  | 'D' :: cs | 'S' :: cs | 'W' :: cs => some (.letterClass true, cs)
  | 'A' :: cs | 'z' :: cs => some (.boundary false, cs)
  | 'b' :: cs | 'B' :: cs | '<' :: cs | '>' :: cs => some (.boundary true, cs)
  | 'a' :: cs => some (.literal '\x07' false, cs)
  | 't' :: cs => some (.literal '\t' false, cs)
  | 'n' :: cs => some (.literal '\n' false, cs)
  | 'v' :: cs => some (.literal '\x0b' false, cs)
  | 'f' :: cs => some (.literal '\x0c' false, cs)
  | 'r' :: cs => some (.literal '\r' false, cs)
  | c :: cs => if isEscapable c then some (.literal c false, cs) else none

/-- How deep a list of parts nests; one part is no list. -/
def nesting : List Nat → Nat
  | [] => 0
  | [h] => h
  | hs => hs.foldr max 0 + 1

/-- How deep an expression may nest. -/
def nestingLimit : Nat := 250

/-! Classes in brackets. -/

def classNames : List String :=
  ["alnum", "alpha", "ascii", "blank", "cntrl", "digit", "graph", "lower", "print", "punct",
   "space", "upper", "word", "xdigit"]

/-- The name of a class between colons behind a bracket, and whether it is negated. -/
def namedClass? : List Char → Option (Bool × List Char)
  | ':' :: cs =>
    let (negated, cs) := match cs with
      | '^' :: cs => (true, cs)
      | cs => (false, cs)
    match cs.dropWhile (· != ':') with
    | ':' :: ']' :: rest =>
      if classNames.contains (String.ofList (cs.takeWhile (· != ':'))) then some (negated, rest)
      else none
    | _ => none
  | _ => none

def atom (m : Mode) : List Char → Option (Atom × List Char)
  | [] => none
  | '\\' :: cs => escape m cs
  | c :: cs => some (.literal c false, cs)

/-- The character behind a minus sign. A second `#` behind blanks counts as one. -/
def peek (m : Mode) (cs : List Char) : Option Char :=
  if m.spaced then
    let rest := Text.dropBlanks cs
    let rest := if rest.head? = some '#' then Text.dropBlanks (rest.drop 1) else rest
    (if rest.isEmpty then cs else rest).head?
  else cs.head?

/-- One member of a class, or a range of characters in order. -/
def member (m : Mode) (cs : List Char) : Option (List Char) := do
  let (low, cs) ← atom m cs
  match skip m cs with
  | [] => none
  | '-' :: rest =>
    let next := peek m rest
    if next = some ']' ∨ next = some '-' then
      if m.admitsMember low then some ('-' :: rest) else none
    else
      let (high, rest) ← atom m (skip m rest)
      match low, high with
      | .literal a _, .literal b _ =>
        if a ≤ b && m.admitsMember low && m.admitsMember high then some rest else none
      | _, _ => none
  | rest => if m.admitsMember low then some rest else none

mutual

/-- A class behind its opening bracket: how deep it nests, and what follows it. -/
def bracket (m : Mode) : (fuel : Nat) → List Char → Option (Nat × List Char)
  | 0, _ => none
  | fuel + 1, cs =>
    match skip m cs with
    | '^' :: cs => if m.unicode then members m fuel true none [] cs else none
    | cs => members m fuel true none [] cs

/--
The members of a class up to its closing bracket. In front, where `leading` holds, a minus sign is
a member, and so is a closing bracket that nothing precedes. The classes combined so far nest as
deep as `left`, and the members since then as deep as `depths`.
-/
def members (m : Mode) : (fuel : Nat) → (leading : Bool) → (left : Option Nat) →
    (depths : List Nat) → List Char → Option (Nat × List Char)
  | 0, _, _, _, _ => none
  | fuel + 1, leading, left, depths, cs =>
    let combined := match left with
      | none => nesting depths
      | some h => max h (nesting depths) + 1
    let literal (c : Char) (leading : Bool) (cs : List Char) : Option (Nat × List Char) :=
      if m.admitsMember (.literal c false) then members m fuel leading left (0 :: depths) cs
      else none
    match skip m cs with
    | [] => none
    | ']' :: cs =>
      if leading && depths.isEmpty then literal ']' false cs else some (combined + 1, cs)
    | '-' :: cs =>
      if leading then literal '-' true cs
      else
        match cs with
        | '-' :: cs => members m fuel false (some combined) [] cs
        | cs => do members m fuel false left (0 :: depths) (← member m ('-' :: cs))
    | '&' :: '&' :: cs | '~' :: '~' :: cs => members m fuel false (some combined) [] cs
    | '[' :: cs =>
      match namedClass? cs with
      | some (negated, cs) =>
        if m.admitsNamed negated then members m fuel false left (0 :: depths) cs else none
      | none => do
        let (h, cs) ← bracket m fuel cs
        members m fuel false left (h :: depths) cs
    | cs => do members m fuel false left (0 :: depths) (← member m cs)

end

/-! Groups, alternatives and repetitions. -/

/-- An expression or a group as far as it is read. -/
structure Draft where
  /-- How deep each finished alternative nests. -/
  alternatives : List Nat := []
  /-- The parts of the present alternative, the last one first; switches cannot be repeated. -/
  parts : List (Option Nat) := []
  deriving DecidableEq, Repr, Inhabited

namespace Draft

/-- How deep the present alternative nests. -/
def present (d : Draft) : Nat := nesting (d.parts.map fun part => part.getD 0)

def height (d : Draft) : Nat := nesting (d.present :: d.alternatives)

end Draft

/-- What is known in the middle of an expression. -/
structure Progress where
  mode : Mode := {}
  draft : Draft := {}
  /-- The groups around the present one, each with the mode in front of the next. -/
  outer : List (Draft × Mode) := []
  names : List (List Char) := []
  /-- Whether there is a boundary of words among all letters of Unicode. -/
  hasWordBoundary : Bool := false
  deriving DecidableEq, Repr, Inhabited

namespace Progress

def add (p : Progress) (part : Option Nat) : Progress :=
  { p with draft := { p.draft with parts := part :: p.draft.parts } }

def addAtom (p : Progress) (a : Atom) : Option Progress :=
  if p.mode.admits a then
    let isUnicode := p.mode.unicode && a == .boundary true
    some { p.add (some 0) with hasWordBoundary := p.hasWordBoundary || isUnicode }
  else none

/-- Repeats the last part, which must be there. -/
def repeatLast (p : Progress) : Option Progress :=
  match p.draft.parts with
  | some h :: parts => some { p with draft := { p.draft with parts := some (h + 1) :: parts } }
  | _ => none

def nextAlternative (p : Progress) : Progress :=
  { p with draft := { alternatives := p.draft.present :: p.draft.alternatives } }

def enter (p : Progress) (mode : Mode) : Progress :=
  { p with mode, draft := {}, outer := (p.draft, p.mode) :: p.outer }

/-- Ends the present group, which must not be the whole expression. -/
def leave (p : Progress) : Option Progress :=
  match p.outer with
  | [] => none
  | (draft, mode) :: outer =>
    some (({ p with mode, draft, outer } : Progress).add (some (p.draft.height + 1)))

end Progress

def isGroupName : List Char → Bool
  | [] => false
  | c :: cs =>
    (c == '_' || Text.isAlphabetic c) &&
      cs.all fun c => ['_', '.', '[', ']'].contains c || Text.isAlphanumeric c

/-- Switches, none twice, and at most one minus sign, which stands in front of one. -/
def areSwitches (cs : List Char) : Bool :=
  cs.all (['i', 'm', 's', 'U', 'u', 'R', 'x', '-'].contains ·) && decide cs.Nodup &&
    cs.getLast? != some '-'

/-- What an opening parenthesis begins: a group, with a name or switches, or switches alone. -/
def openGroup (p : Progress) (cs : List Char) : Option (Progress × List Char) :=
  match skip p.mode cs with
  | '?' :: 'P' :: '<' :: cs | '?' :: '<' :: cs =>
    let name := cs.takeWhile (· != '>')
    match cs.dropWhile (· != '>') with
    | [] => none
    | _ :: rest =>
      if isGroupName name && !p.names.contains name then
        some ({ p.enter p.mode with names := name :: p.names }, rest)
      else none
  | '?' :: cs =>
    let isSwitch (c : Char) : Bool := c != ':' && c != ')'
    let switches := cs.takeWhile isSwitch
    if areSwitches switches then
      let mode := p.mode.switch switches
      match cs.dropWhile isSwitch with
      | ':' :: rest => some (p.enter mode, rest)
      | ')' :: rest => if switches.isEmpty then none else some ({ p.add none with mode }, rest)
      | _ => none
    else none
  | cs => some (p.enter p.mode, cs)

/-- Reads an expression to its end, if there is no fault in it. -/
def read : (fuel : Nat) → Progress → List Char → Option Progress
  | 0, _, _ => none
  | fuel + 1, p, cs =>
    match skip p.mode cs with
    | [] => some p
    | '(' :: cs => do
      let (p, cs) ← openGroup p cs
      read fuel p cs
    | ')' :: cs => do read fuel (← p.leave) cs
    | '|' :: cs => read fuel p.nextAlternative cs
    | '[' :: cs => do
      let (h, cs) ← bracket p.mode (2 * cs.length + 2) cs
      read fuel (p.add (some h)) cs
    | '?' :: cs | '*' :: cs | '+' :: cs => do
      read fuel (← p.repeatLast) (if cs.head? = some '?' then cs.drop 1 else cs)
    | '\x7b' :: _ => none
    | '.' :: cs => if p.mode.unicode then read fuel (p.add (some 0)) cs else none
    | '^' :: cs | '$' :: cs => do read fuel (← p.addAtom (.boundary false)) cs
    | cs => do
      let (a, cs) ← atom p.mode cs
      read fuel (← p.addAtom a) cs

end Pattern

/-- Checks a regular expression. -/
def checkPattern (cs : List Char) : Except PatternError Unit :=
  match Pattern.read (cs.length + 1) {} cs with
  | none => .error .malformed
  | some p =>
    if !p.outer.isEmpty || Pattern.nestingLimit < p.draft.height then .error .malformed
    else if p.hasWordBoundary then .error .wordBoundary
    else .ok ()

/-- What follows a sign, if there is one. -/
def unsigned : List Char → List Char
  | '+' :: cs | '-' :: cs => cs
  | cs => cs

/-- Digits with a point somewhere and an exponent behind them, if need be. -/
def isDecimal (cs : List Char) : Bool :=
  let (whole, rest) := cs.span Char.isDigit
  let (fraction, rest) := match rest with
    | '.' :: cs => cs.span Char.isDigit
    | cs => ([], cs)
  !(whole.isEmpty && fraction.isEmpty) &&
    match rest with
    | [] => true
    | 'e' :: cs | 'E' :: cs => !(unsigned cs).isEmpty && (unsigned cs).all Char.isDigit
    | _ => false

/-- A number with a sign if need be, among them infinity and what is no number. -/
def isNumber (cs : List Char) : Bool :=
  let cs := unsigned cs
  isDecimal cs || ["inf", "infinity", "nan"].any (cs.map Char.toLower == ·.toList)

/-- Checks the value of a field: a number, or a regular expression. -/
def checkValue (cs : List Char) : Except PatternError Unit :=
  if isNumber cs then .ok () else checkPattern cs

end SerialBus.LogFilter
