import SerialBus.Probe.Help
import SerialBus.Probe.LogFilter
import SerialBus.Probe.Report
import SerialBus.Search
import SerialBus.Settings.File
import SerialBus.Settings.SetupError

/-! A run of the command line: its settings, its command, and what it leaves behind. -/

namespace SerialBus.Probe

/-- Why a command ends early, with what lies behind it, the nearest cause first. -/
structure Failure where
  message : String
  causes : List String := []
  deriving DecidableEq, Repr, Inhabited

namespace Failure

/-- A text of which all lines but the first are indented by `indent`. -/
def indentRest (indent : String) (s : String) : String :=
  ("\n" ++ indent).intercalate ((s.toList.splitOn '\n').map String.ofList)

/-- The causes, which have numbers if there are several. -/
def causeLines : List String → String
  | [] => ""
  | [cause] => "\nCaused by:\n    " ++ indentRest "    " cause ++ "\n"
  | causes =>
    "\nCaused by:\n" ++ String.join (causes.mapIdx fun i cause =>
      s!"    {i}: " ++ indentRest "       " cause ++ "\n")

def text (f : Failure) : String := s!"Error: {f.message}\n{causeLines f.causes}"

end Failure

/-- What a run leaves behind: its exit code and what it printed. -/
structure Outcome where
  code : Nat
  output : String := ""
  errors : String := ""
  deriving DecidableEq, Repr, Inhabited

def Refusal.outcome : Refusal → Outcome
  | .misuse => { code := 2, errors := s!"error: see '{programName} --help' for the arguments\n" }
  | .help topic long => { code := 0, output := topic.text long }
  | .version => { code := 0, output := s!"{programName} {programVersion}\n" }

/-- What a command printed, and why it ended early if it did. -/
abbrev Report : Type := String × Option Failure

def Outcome.ofReport : Report → Outcome
  | (output, none) => { code := 0, output }
  | (output, some f) => { code := 1, output, errors := f.text }

/-- What surrounds a run. -/
structure Environment where
  /-- The settings file that the arguments name, if they name one. -/
  chosen : Option SettingsFile := none
  /-- The settings files that are tried otherwise. -/
  standard : List SettingsFile := []
  /-- The backend to use in place of those in the settings. -/
  backend : Option String := none

namespace Environment

def settings (env : Environment) : Except Failure Settings :=
  match env.chosen with
  | none => .ok (Settings.loadOrDefault env.standard)
  | some file =>
    match Settings.load file with
    | .ok s => .ok s
    | .error e => .error ⟨"Failed to load configuration", e.causes⟩

end Environment

/-- Checks the filter of the log, which the settings give unless the options do. -/
def checkLog (options : Options) (settings : Settings) : Except Failure Unit :=
  match LogFilter.check (options.logLevel.getD settings.level) with
  | .ok () => .ok ()
  | .error e =>
    let cause := SetupError.configuration s!"Invalid log filter: {e.message}"
    .error ⟨"Failed to setup logging", [cause.message]⟩

variable {σ : Type} [Backend σ]

/-- The search for the devices of a selection. -/
def Selection.search (selection : Selection) (settings : Settings) (backend : Option String) :
    Search σ :=
  let vendor := selection.vendorId.toList.map fun n => (DeviceField.vendorId, n.toNat)
  let product := selection.productId.toList.map fun n => (DeviceField.productId, n.toNat)
  { order := settings.kinds backend
    filters := vendor ++ product
    defaultTimeout := some settings.timeout }

/-- A search on the backend that its order leads to, where `start` starts that of libusb 1. -/
def searching {α : Type} (start : Action σ Unit) (search : Search σ) (act : Action σ α) :
    StateM σ (Except Failure α) := fun bus =>
  match (BackendKind.select start search.order >>= fun () => act) bus with
  | .ok a bus => (.ok a, bus)
  | .error e bus => (.error ⟨"Device search failed", [e.message]⟩, bus)

/-- The first device of a selection, which must not be empty. -/
def findOne (start : Action σ Unit) (selection : Selection) (search : Search σ) :
    StateM σ (Except Failure Device) := do
  if selection.vendorId.isNone && selection.productId.isNone then
    return .error ⟨"Select a device with --vid and/or --pid", []⟩
  match ← searching start search search.first with
  | .error f => return .error f
  | .ok none => return .error ⟨"No matching device found", []⟩
  | .ok (some d) => return .ok d

/-- The result of an operation on a device, with the device after it. -/
def onDevice {α : Type} (d : Device) (act : DeviceAction σ α) :
    StateM σ (Except UsbError α × Device) := fun bus =>
  match act ⟨d, bus⟩ with
  | .ok a s => ((.ok a, s.device), s.bus)
  | .error e s => ((.error e, s.device), s.bus)

/-- Puts the devices away, in their order. -/
def dropAll (devices : List Device) : StateM σ Unit :=
  modify fun bus => devices.foldl (fun bus d => d.drop bus) bus

/-- The devices with their summaries, each read before the next. -/
def summarize : List Device → StateM σ (List (Device × DeviceSummary))
  | [] => return []
  | d :: rest => do
    match ← onDevice d Device.summary with
    | (.ok s, d) => return (d, s) :: (← summarize rest)
    | (.error _, d) => return (d, default) :: (← summarize rest)

def runList (start : Action σ Unit) (search : Search σ) (json : Bool) : StateM σ Report := do
  match ← searching start search search.all with
  | .error f => return ("", some f)
  | .ok devices =>
    let devices ← summarize devices
    dropAll (devices.map (·.1))
    return (if json then listJson devices else listText devices, none)

def runTree (start : Action σ Unit) (selection : Selection) (search : Search σ) :
    StateM σ Report := do
  match ← findOne start selection search with
  | .error f => return ("", some f)
  | .ok d =>
    let (product, d) ← onDevice d (Device.bestEffort Device.product)
    let (tree, d) ← onDevice d (onBus d.tree)
    dropAll [d]
    let head := deviceText d ++ productText (product.toOption.join)
    match tree with
    | .error e => return (head, some ⟨e.message, []⟩)
    | .ok tree =>
      let (lines, e) := treeText tree
      return (head ++ lines, e.map fun e => ⟨e.message, []⟩)

def runControl (start : Action σ Unit) (selection : Selection) (search : Search σ) (setup : Setup)
    (data : ControlData) : StateM σ Report := do
  match ← findOne start selection search with
  | .error f => return ("", some f)
  | .ok d =>
    let (result, d) ← onDevice d (Device.controlTransfer setup data none)
    dropAll [d]
    match result with
    | .ok done => return (transferText done, none)
    | .error e => return ("", some ⟨s!"Control transfer to {d.text} failed", [e.message]⟩)

/-- The command of a run with the settings. -/
def Command.run (start : Action σ Unit) (settings : Settings) (backend : Option String) :
    Command → StateM σ Report
  | .list selection deviceClass json =>
    let search := selection.search settings backend
    let byClass := deviceClass.toList.map fun n => (DeviceField.deviceClass, n.toNat)
    runList start { search with filters := search.filters ++ byClass } json
  | .tree selection => runTree start selection (selection.search settings backend)
  | .control selection setup data =>
    runControl start selection (selection.search settings backend) setup data

/-- A run with the arguments. Settings come first, then the log, then the command. -/
def Arguments.run (start : Action σ Unit) (env : Environment) (arguments : Arguments) :
    StateM σ Outcome := do
  let options := arguments.options
  match (do
      let settings ← env.settings
      checkLog options settings
      return { settings with timeout := options.timeout.getD settings.timeout }) with
  | .error f => return .ofReport ("", some f)
  | .ok settings => return .ofReport (← arguments.command.run start settings env.backend)

end SerialBus.Probe
