import SerialBus.Backend.Kind

/-! Settings of a host: the level of its log, the backends it tries, and its timeout. -/

namespace SerialBus

structure Settings where
  level : String := "info"
  /-- The names of the backends to try, the preferred one first. -/
  order : List String := BackendKind.priority.map BackendKind.name
  /-- The timeout in ms of devices that are found. -/
  timeout : Nat := 1000
  deriving DecidableEq, Repr, Inhabited

/-- Why settings cannot be used. -/
inductive SettingsError
  | invalidLevel (level : String)
  | emptyOrder
  | unknownBackend (name : String)
  | repeatedBackend (name : String)
  deriving DecidableEq, Repr

namespace Settings

def logLevels : List String := ["trace", "debug", "info", "warn", "error"]

/-- Whether the text is one of the levels, in either case of its letters. -/
def isLevel (s : String) : Bool :=
  logLevels.any fun level => s.toList.map Char.toLower == level.toList

end Settings

def SettingsError.message : SettingsError → String
  | .invalidLevel level =>
    s!"Invalid log level '{level}', must be one of: " ++ ", ".intercalate Settings.logLevels
  | .emptyOrder => "Backend order must name at least one backend"
  | .unknownBackend name => s!"Unknown backend '{name}' in backend order"
  | .repeatedBackend name => s!"Backend '{name}' listed more than once"

namespace Settings

/-- The first name that is unknown or names a kind again, where the kinds in `seen` came before. -/
def checkOrder (seen : List BackendKind) : List String → Except SettingsError Unit
  | [] => .ok ()
  | name :: rest =>
    match BackendKind.parse? name with
    | none => .error (.unknownBackend name)
    | some kind =>
      if kind ∈ seen then .error (.repeatedBackend name) else checkOrder (kind :: seen) rest

def validate (s : Settings) : Except SettingsError Unit :=
  if !isLevel s.level then .error (.invalidLevel s.level)
  else if s.order.isEmpty then .error .emptyOrder
  else checkOrder [] s.order

/-- The backends to try; an override that names a kind takes the place of the whole order. -/
def kinds (s : Settings) (replacement : Option String) : List BackendKind :=
  match replacement.bind BackendKind.parse? with
  | some kind => [kind]
  | none => s.order.filterMap BackendKind.parse?

end Settings

end SerialBus
