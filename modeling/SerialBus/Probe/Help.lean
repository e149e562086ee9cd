import SerialBus.Probe.Arguments

/-! The help texts of the command line. -/

namespace SerialBus.Probe

def programName : String := "usb-probe"

def programVersion : String := "0.1.0"

namespace Flag

/-- What the value of a flag is called. -/
def valueName? : Flag → Option String
  | config => some "PATH"
  | logLevel => some "LEVEL"
  | timeout => some "MS"
  | vendorId => some "VID"
  | productId => some "PID"
  | deviceClass => some "CLASS"
  | requestType => some "TYPE"
  | request => some "REQUEST"
  | value => some "VALUE"
  | index => some "INDEX"
  | length => some "LENGTH"
  | data => some "HEX"
  | json | help | version => none

def summary : Flag → String
  | config => "Path to configuration file"
  | logLevel => "Log level (trace, debug, info, warn, error)"
  | timeout => "Default transfer timeout in milliseconds"
  | vendorId => "Vendor id (e.g. 0x04d8)"
  | productId => "Product id (e.g. 0xfa2e)"
  | deviceClass => "Only devices of this class"
  | json => "Print JSON instead of text"
  | requestType => "bmRequestType; bit 7 set reads from the device"
  | request => "bRequest"
  | value => "wValue [default: 0]"
  | index => "wIndex [default: 0]"
  | length => "Bytes to read (device-to-host requests)"
  | data => "Payload as hex (host-to-device requests)"
  | help => "Print help"
  | version => "Print version"

/-- The flag as it is typed. -/
def usage (f : Flag) : String :=
  let letter := match f.letter? with
    | some c => s!"  -{c}, "
    | none => "      "
  let value := match f.valueName? with
    | some name => s!" <{name}>"
    | none => ""
  s!"{letter}--{f.name}{value}"

end Flag

def Verb.summary : Verb → String
  | .list => "List attached devices"
  | .tree => "Print the descriptor tree of a device"
  | .control => "Issue one control transfer"

namespace Topic

def shortAbout : Topic → String
  | program => "Inspect USB devices and issue control transfers"
  | verb v => v.summary
  | help => "Print this message or the help of the given subcommand(s)"

def longAbout : String :=
  "Inspect USB devices through the usb-host library.\n\n" ++
    "EXAMPLES:\n" ++
    "    # List every device\n" ++
    "    usb-probe list\n\n" ++
    "    # List devices of one vendor as JSON\n" ++
    "    usb-probe list --vid 0x04d8 --json\n\n" ++
    "    # Dump the descriptor tree of a device\n" ++
    "    usb-probe show --vid 0x04d8 --pid 0xfa2e\n\n" ++
    "    # Vendor IN request reading 4 bytes\n" ++
    "    usb-probe ctrl --vid 0x04d8 --pid 0xfa2e --request-type 0xC0 --request 1 --length 4\n\n" ++
    "CONFIGURATION:\n" ++
    "    The host configuration is read from, in order:\n" ++
    "    1. Path specified with --config\n" ++
    "    2. ~/.config/usb-host/host.toml\n" ++
    "    3. /etc/usb-host/host.toml\n" ++
    "    4. Built-in defaults\n"

def usage : Topic → String
  | program => "[OPTIONS] <COMMAND>"
  | verb .list => "list [OPTIONS]"
  | verb .tree => "show [OPTIONS]"
  | verb .control => "ctrl [OPTIONS] --request-type <TYPE> --request <REQUEST>"
  | help => "help [COMMAND]..."

/-- The commands with their summaries, in a column. -/
def commandLines : String :=
  String.join ((Verb.all.map fun v => s!"  {v.name}  {v.summary}\n") ++
    [s!"  help  {help.shortAbout}\n"])

def flags : Topic → List Flag
  | program => Place.program.flags
  | verb v => (Place.ofVerb v).flags
  | help => []

/-- The flags with their summaries, in a column. -/
def flagLines (topic : Topic) (summary : Flag → String) : String :=
  let width := (topic.flags.map fun f => f.usage.length).foldl max 0
  String.join (topic.flags.map fun f =>
    f.usage ++ String.ofList (List.replicate (width + 2 - f.usage.length) ' ') ++ summary f ++ "\n")

/-- The flags with their summaries below them. -/
def flagParagraphs (topic : Topic) (summary : Flag → String) : String :=
  "\n".intercalate (topic.flags.map fun f => s!"{f.usage}\n          {summary f}\n")

/-- The help text; only the program has a long one. -/
def text (topic : Topic) (long : Bool) : String :=
  let usage := s!"Usage: {programName} {topic.usage}\n"
  let summary (note : String) : Flag → String
    | .help => s!"Print help ({note})"
    | f => f.summary
  match topic, long with
  | program, true =>
    s!"{longAbout}\n\n{usage}\nCommands:\n{commandLines}\nOptions:\n" ++
      program.flagParagraphs (summary "see a summary with '-h'")
  | program, false =>
    s!"{program.shortAbout}\n\n{usage}\nCommands:\n{commandLines}\nOptions:\n" ++
      program.flagLines (summary "see more with '--help'")
  | verb v, _ =>
    s!"{v.summary}\n\n{usage}\nOptions:\n" ++ (verb v).flagLines Flag.summary
  | help, _ =>
    s!"{help.shortAbout}\n\n{usage}\nArguments:\n" ++
      "  [COMMAND]...  Print help for the subcommand(s)\n"

end Topic

end SerialBus.Probe
