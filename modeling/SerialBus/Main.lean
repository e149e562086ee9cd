import SerialBus.Native.Library
import SerialBus.Probe.Run

/-! The command line program. It is linked with no USB library, so no backend of its own starts. -/

namespace SerialBus.Probe

/-- The file with a name, as far as it can be read. -/
def readSettings (path : String) : IO SettingsFile := do
  try
    return ⟨path, .ok (← IO.FS.readFile path)⟩
  catch e =>
    match e with
    | .noFileOrDirectory .. => return ⟨path, .error .missing⟩
    | .permissionDenied .. => return ⟨path, .error .denied⟩
    | .inappropriateType .. => return ⟨path, .error .directory⟩
    | _ => return ⟨path, .error .notText⟩

/-- The places of the settings file that belongs to the user, and of the one that all share. -/
def standardPaths : IO (List String) := do
  let base ← match ← IO.getEnv "XDG_CONFIG_HOME", ← IO.getEnv "HOME" with
    | some dir, _ => pure (some dir)
    | none, some home => pure (some s!"{home}/.config")
    | none, none => pure none
  let dir := base.getD ".config"
  return [s!"{dir}/usb-host/host.toml", "/etc/usb-host/host.toml"]

def environment (options : Options) : IO Environment := do
  let home ← IO.getEnv "HOME"
  let backend ← IO.getEnv "USB_HOST_BACKEND"
  match options.config with
  | some path => return { chosen := some (← readSettings (Settings.expandHome home path)), backend }
  | none => return { standard := ← (← standardPaths).mapM readSettings, backend }

/-- A bus whose library does not start. -/
def noLibrary : Native.Bus :=
  { library := { failures := Table.ofList [(.init, -99)] }, context := {} }

def outcome (words : List String) : IO Outcome := do
  match Arguments.parse words with
  | .error refusal => return refusal.outcome
  | .ok arguments =>
    let env ← environment arguments.options
    return (arguments.run Native.Bus.start env noLibrary).1

end SerialBus.Probe

def main (words : List String) : IO UInt32 := do
  let outcome ← SerialBus.Probe.outcome words
  IO.print outcome.output
  IO.eprint outcome.errors
  return outcome.code.toUInt32
