import SerialBus.Settings.Basic
import SerialBus.Toml.Printer
import SerialBus.Toml.Reader

/-! Settings as the content of a file, and what becomes of them when the file is read or written. -/

namespace SerialBus

/-- Why a file has no content. -/
inductive ReadFailure
  | missing
  | directory
  | denied
  | notText
  deriving DecidableEq, Repr, Inhabited

def ReadFailure.text : ReadFailure → String
  | .missing => "No such file or directory (os error 2)"
  | .directory => "Is a directory (os error 21)"
  | .denied => "Permission denied (os error 13)"
  | .notText => "stream did not contain valid UTF-8"

/-- The file with a name, as far as it can be read. -/
structure SettingsFile where
  path : String
  content : Except ReadFailure String

/-- Why settings cannot be loaded. -/
inductive LoadError
  | unreadable (path : String) (reason : ReadFailure)
  | malformed (path : String)
  | absent
  | invalid (reason : SettingsError)
  deriving DecidableEq, Repr

namespace LoadError

def message : LoadError → String
  | unreadable path _ => s!"Failed to read config file: {path}"
  | malformed path => s!"Failed to parse config file: {path}"
  | absent => "No configuration file found, using defaults"
  | invalid reason => reason.message

/-- The message, with what lies behind it. -/
def causes (e : LoadError) : List String :=
  match e with
  | unreadable _ reason => [e.message, reason.text]
  | malformed _ => [e.message, "TOML parse error"]
  | absent => [e.message]
  | invalid _ => [e.message]

end LoadError

/-- Why settings cannot be saved. -/
inductive SaveError
  | directoryBlocked (path : String)
  | fileBlocked (path : String)
  deriving DecidableEq, Repr

def SaveError.message : SaveError → String
  | .directoryBlocked path => s!"Failed to create config directory: {path}"
  | .fileBlocked path => s!"Failed to write config file: {path}"

namespace Settings

/--
The value of a field in a group of settings. A group is a table, which may leave the field out, or
an array that holds the value of its only field; a date is a group without any field.
-/
def field {α : Type} (name : String) (standard : α) (decode : Toml → Option α) :
    Option Toml → Option α
  | none => some standard
  | some (.table _ entries) =>
    match entries.lookup name with
    | some value => decode value
    | none => some standard
  | some (.array (value :: _)) => decode value
  | some (.array []) => some standard
  | some (.tables (first :: _) _) => decode (.table .header first)
  | some (.tables [] last) => decode (.table .header last)
  | some .dateTime => some standard
  | some _ => none

def text? : Toml → Option String
  | .string s => some s
  | _ => none

def texts? : Toml → Option (List String)
  | .array items => items.mapM text?
  | _ => none

/-- A number of 32 bits. -/
def count? : Toml → Option Nat
  | .integer n => if 0 ≤ n ∧ n < 0x100000000 then some n.toNat else none
  | _ => none

/-- The settings that a document holds; what it does not name has its usual value. -/
def ofToml? (document : Toml.Entries) : Option Settings := do
  let standard : Settings := {}
  return {
    level := ← field "level" standard.level text? (document.lookup "logging")
    order := ← field "order" standard.order texts? (document.lookup "backend")
    timeout := ← field "default_timeout_ms" standard.timeout count? (document.lookup "transfer") }

/-- The settings that a text holds. -/
def ofText? (text : String) : Option Settings := Toml.parse? text >>= ofToml?

/-- The settings as a document. -/
def render (s : Settings) : String :=
  s!"[logging]\nlevel = {Toml.renderText s.level}\n\n" ++
    s!"[backend]\norder = {Toml.renderTexts s.order}\n\n" ++
    s!"[transfer]\ndefault_timeout_ms = {s.timeout}\n"

/-- The settings in a file, which must be valid, as `read` takes them from its text. -/
def load (file : SettingsFile) (read : String → Option Settings := ofText?) :
    Except LoadError Settings :=
  match file.content with
  | .error reason => .error (.unreadable file.path reason)
  | .ok content =>
    match read content with
    | none => .error (.malformed file.path)
    | some s =>
      match s.validate with
      | .ok () => .ok s
      | .error reason => .error (.invalid reason)

/-- The settings in the first of the files that there is. -/
def loadFirst (files : List SettingsFile) (read : String → Option Settings := ofText?) :
    Except LoadError Settings :=
  match files with
  | [] => .error .absent
  | file :: files =>
    match file.content with
    | .error .missing => loadFirst files read
    | _ => load file read

/-- The settings in the first of the files that there is; the usual ones if that fails. -/
def loadOrDefault (files : List SettingsFile) (read : String → Option Settings := ofText?) :
    Settings :=
  match loadFirst files read with
  | .ok s => s
  | .error _ => {}

/-- A path with the home directory in place of a tilde at its front. -/
def expandHome (home : Option String) (path : String) : String :=
  match home, path.toList with
  | some home, ['~'] => home
  | some home, '~' :: '/' :: rest => home ++ "/" ++ String.ofList rest
  | _, _ => path

/-- What stands where a file is to be saved. -/
inductive Obstacle
  /-- A file with the name of the directory. -/
  | file
  /-- A directory with the name of the file. -/
  | directory
  deriving DecidableEq, Repr, Inhabited

/-- What is written to the file with the name in the directory. -/
def save (s : Settings) (directory name : String) : Option Obstacle → Except SaveError String
  | none => .ok s.render
  | some .file => .error (.directoryBlocked directory)
  | some .directory => .error (.fileBlocked s!"{directory}/{name}")

end Settings

end SerialBus
