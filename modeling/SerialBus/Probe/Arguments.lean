import SerialBus.Device.Transfer
import SerialBus.Text.HexBytes

/-! The command line: its options, its commands, and how it is read from its words. -/

namespace SerialBus.Probe

inductive Flag
  | config
  | logLevel
  | timeout
  | vendorId
  | productId
  | deviceClass
  | json
  | requestType
  | request
  | value
  | index
  | length
  | data
  | help
  | version
  deriving DecidableEq, Repr, Inhabited

namespace Flag

def name : Flag → String
  | config => "config"
  | logLevel => "log-level"
  | timeout => "timeout"
  | vendorId => "vid"
  | productId => "pid"
  | deviceClass => "class"
  | json => "json"
  | requestType => "request-type"
  | request => "request"
  | value => "value"
  | index => "index"
  | length => "length"
  | data => "data"
  | help => "help"
  | version => "version"

/-- The letter that stands for the flag behind a single dash. -/
def letter? : Flag → Option Char
  | config => some 'c'
  | logLevel => some 'l'
  | timeout => some 't'
  | help => some 'h'
  | version => some 'V'
  | _ => none

/-- What a flag is sorted by: its letter, if it has one. -/
def sortKey (f : Flag) : String := (f.letter?.map Char.toString).getD f.name

def takesValue : Flag → Bool
  | json | help | version => false
  | _ => true

/-- A number below the bound, with a sign if need be. -/
def number? (bound : Nat) (s : String) : Option Nat :=
  match s.toList with
  | '-' :: cs => (Text.unsigned? 10 (if cs.head? = some '+' then [] else cs)).filter (· = 0)
  | cs => (Text.unsigned? 10 cs).filter (· < bound)

/-- A number below the bound without a minus sign. -/
def count? (bound : Nat) (s : String) : Option Nat :=
  (Text.unsigned? 10 s.toList).filter (· < bound)

/-- Whether the flag can have the value. -/
def admits (f : Flag) (s : String) : Bool :=
  match f with
  | config => s != ""
  | logLevel => true
  | timeout => (number? 0x100000000 s).isSome
  | vendorId | productId | value | index => (Text.parseWord s.toList).isOk
  | deviceClass | requestType | request => (Text.parseByte s.toList).isOk
  | length => (count? 0x10000000000000000 s).isSome
  | data => (Text.HexBytes.parse s.toList).isOk
  | json | help | version => false

end Flag

/-- The commands by their names. -/
inductive Verb
  | list
  | tree
  | control
  deriving DecidableEq, Repr, Inhabited

namespace Verb

def all : List Verb := [list, tree, control]

def name : Verb → String
  | list => "list"
  | tree => "show"
  | control => "ctrl"

def ofName? (s : String) : Option Verb := all.find? (·.name == s)

/-- The flags that belong to the command alone. -/
def flags : Verb → List Flag
  | list => [.vendorId, .productId, .deviceClass, .json]
  | tree => [.vendorId, .productId]
  | control =>
    [.vendorId, .productId, .requestType, .request, .value, .index, .length, .data]

end Verb

/-- The flags that may stand in front of the command as well as behind it. -/
def globalFlags : List Flag := [.config, .logLevel, .timeout]

/-- What a help text can be about. -/
inductive Topic
  | program
  | verb (v : Verb)
  /-- The command that asks for help. -/
  | help
  deriving DecidableEq, Repr, Inhabited

/-- Why a command line leads to no command. -/
inductive Refusal
  | misuse
  | help (topic : Topic) (long : Bool)
  | version
  deriving DecidableEq, Repr, Inhabited

/-- A word of the command line. -/
inductive Token
  | long (name : String) (value : Option String)
  | short (letter : Char) (value : Option String)
  | plain
  deriving DecidableEq, Repr, Inhabited

/-- A word by its dashes; a value may follow a name behind an equals sign, and a letter at once. -/
def Token.ofWord (w : String) : Token :=
  match w.toList with
  | '-' :: '-' :: cs =>
    match cs.dropWhile (· != '=') with
    | [] => .long (String.ofList cs) none
    | _ :: value => .long (String.ofList (cs.takeWhile (· != '='))) (some (String.ofList value))
  | '-' :: c :: cs =>
    match cs with
    | [] => .short c none
    | '=' :: value => .short c (some (String.ofList value))
    | value => .short c (some (String.ofList value))
  | _ => .plain

/-- The flags that were given, with their values. -/
abbrev Given : Type := List (Flag × String)

/-- Adds a flag, which may be given only once and only with a value that it admits. -/
def Given.add (given : Given) (f : Flag) (value : String) : Except Refusal Given :=
  if (given.lookup f).isSome ∨ (f.takesValue ∧ ¬ f.admits value) then .error .misuse
  else .ok ((f, value) :: given)

/--
The flags read so far. A value in a word of its own is not added until the next flag is met, or the
words end, so that help about a command comes before a fault in the last value in front of it.
-/
structure Reading where
  given : Given := []
  waiting : Option (Flag × String) := none
  deriving DecidableEq, Repr, Inhabited

/-- All flags that were read, once nothing is left to wait for. -/
def Reading.settle (r : Reading) : Except Refusal Given :=
  match r.waiting with
  | none => .ok r.given
  | some (f, value) => r.given.add f value

/-- The flags of two lists in turn; of two in one turn the alphabet decides. -/
def inTurn : List Flag → List Flag → List Flag
  | f :: fs, g :: gs =>
    if f.sortKey < g.sortKey then f :: g :: inTurn fs gs else g :: f :: inTurn fs gs
  | [], gs => gs
  | fs, [] => fs

/-- Where in the command line a flag stands: what is known there, and what help is given. -/
structure Place where
  topic : Topic
  flags : List Flag

/-- The place in front of the command. -/
def Place.program : Place := ⟨.program, globalFlags ++ [.help, .version]⟩

def Place.ofVerb (v : Verb) : Place := ⟨.verb v, inTurn globalFlags v.flags ++ [.help]⟩

/-- What an option names at a place, with the value that is attached to it. -/
def Place.option? (p : Place) : Token → Option (Flag × Option String)
  | .long name value => (p.flags.find? (·.name == name)).map fun f => (f, value)
  | .short letter value => (p.flags.find? (·.letter? == some letter)).map fun f => (f, value)
  | .plain => none

/--
A flag that takes no value. What follows its letter in a word is not read, because the flags that
have a letter end the reading.
-/
def Place.switch (p : Place) (f : Flag) (long : Bool) (value : Option String) (given : Given) :
    Except Refusal Given :=
  if long ∧ value.isSome then .error .misuse
  else
    match f with
    | .help => .error (.help p.topic long)
    | .version => .error .version
    | f => given.add f ""

/--
Reads options up to the first word that is none, which it returns with the words behind it. Nothing
may follow a double dash.
-/
def Place.scan (p : Place) (r : Reading) : List String → Except Refusal (Reading × List String)
  | [] => .ok (r, [])
  | word :: rest =>
    if word = "--" then if rest.isEmpty then .ok (r, []) else .error .misuse
    else
      let token := Token.ofWord word
      if token = .plain then .ok (r, word :: rest)
      else
        match p.option? token with
        | none => .error .misuse
        | some (f, attached) =>
          if f.takesValue then
            match attached, rest with
            | some value, rest => do p.scan { given := ← (← r.settle).add f value } rest
            | none, value :: rest =>
              if Token.ofWord value = .plain then do p.scan ⟨← r.settle, some (f, value)⟩ rest
              else .error .misuse
            | none, [] => .error .misuse
          else do
            let isLong := token matches .long ..
            p.scan { given := ← p.switch f isLong attached (← r.settle) } rest

/-- The flags that apply to every command. -/
structure Options where
  config : Option String := none
  logLevel : Option String := none
  timeout : Option Nat := none
  deriving DecidableEq, Repr, Inhabited

/-- The devices that a command is about. -/
structure Selection where
  vendorId : Option UInt16 := none
  productId : Option UInt16 := none
  deriving DecidableEq, Repr, Inhabited

inductive Command
  | list (selection : Selection) (deviceClass : Option UInt8) (json : Bool)
  | tree (selection : Selection)
  | control (selection : Selection) (setup : Setup) (data : ControlData)
  deriving DecidableEq, Repr, Inhabited

structure Arguments where
  options : Options
  command : Command
  deriving DecidableEq, Repr, Inhabited

namespace Given

def word? (given : Given) (f : Flag) : Option UInt16 := do
  (Text.parseWord (← given.lookup f).toList).toOption

def byte? (given : Given) (f : Flag) : Option UInt8 := do
  (Text.parseByte (← given.lookup f).toList).toOption

def options (given : Given) : Options where
  config := given.lookup .config
  logLevel := given.lookup .logLevel
  timeout := given.lookup .timeout >>= Flag.number? 0x100000000

def selection (given : Given) : Selection where
  vendorId := given.word? .vendorId
  productId := given.word? .productId

/-- The data stage; a length and data exclude each other. -/
def controlData? (given : Given) : Option ControlData :=
  match given.lookup .data, given.lookup .length with
  | none, none => some .none
  | none, some n => (Flag.count? 0x10000000000000000 n).map .length
  | some data, none => (Text.HexBytes.parse data.toList).toOption.map .bytes
  | some _, some _ => none

/-- The command that a verb and its flags make up, unless one that it needs is missing. -/
def command? (given : Given) : Verb → Option Command
  | .list =>
    some (.list given.selection (given.byte? .deviceClass) (given.lookup .json).isSome)
  | .tree => some (.tree given.selection)
  | .control => do
    let setup : Setup :=
      { requestType := ← given.byte? .requestType
        request := ← given.byte? .request
        value := (given.word? .value).getD 0
        index := (given.word? .index).getD 0 }
    return .control given.selection setup (← given.controlData?)

end Given

namespace Arguments

/-- Help about the command that is named, or about the program. -/
def helpFor : List String → Refusal
  | [] => .help .program true
  | [name] =>
    match Verb.ofName? name with
    | some v => .help (.verb v) true
    | none => if name = "help" then .help .help true else .misuse
  | _ => .misuse

/--
The arguments in the words behind the program's name. A flag behind the command hides the same flag
in front of it.
-/
def parse (words : List String) : Except Refusal Arguments := do
  match ← Place.program.scan {} words with
  | (_, []) => throw .misuse
  | (outer, word :: rest) =>
    match Verb.ofName? word with
    | none => throw (if word = "help" then helpFor rest else .misuse)
    | some v =>
      match ← (Place.ofVerb v).scan {} rest with
      | (_, _ :: _) => throw .misuse
      | (inner, []) =>
        let inner ← inner.settle
        let outer ← outer.settle
        match inner.command? v with
        | none => throw .misuse
        | some command => return { options := (inner ++ outer : Given).options, command }

end Arguments

end SerialBus.Probe
