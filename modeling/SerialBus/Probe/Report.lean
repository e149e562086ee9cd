import SerialBus.Descriptor.Names
import SerialBus.Device.Summary
import SerialBus.Device.View
import SerialBus.Json.Printer
import SerialBus.Text.HexBytes

/-! What the commands print. -/

namespace SerialBus.Probe

/-- The lines of a list about one device. -/
def listEntry (d : Device) (s : DeviceSummary) : String :=
  let manufacturer := s.manufacturer.getD "Unknown Manufacturer"
  let product := s.product.getD "Unknown Product"
  s!"  {d.text} - {manufacturer} {product}\n" ++
    s!"      Class: {s.className} ({Text.hexMarked 2 s.deviceClass.toNat})\n" ++
    match s.serialNumber with
    | some serial => s!"      Serial: {serial}\n"
    | none => ""

def listText (devices : List (Device × DeviceSummary)) : String :=
  if devices.isEmpty then "No USB devices found.\n"
  else
    s!"Found {devices.length} USB device(s):\n\n" ++
      String.join (devices.map fun (d, s) => listEntry d s)

def listJson (devices : List (Device × DeviceSummary)) : String :=
  (Json.array (devices.map fun (_, s) => s.toJson)).render ++ "\n"

/-- The lines about a device's own descriptor. -/
def deviceText (d : Device) : String :=
  let p := d.descriptor
  s!"{d.text}\n{descriptorTypeName p.descriptorType}: " ++
    s!"USB {Text.hex 1 (p.usbVersion.toNat / 256)}.{Text.hex 2 (p.usbVersion.toNat % 256)}, " ++
    s!"class {deviceClassName p.deviceClass} ({Text.hexMarked 2 p.deviceClass.toNat}), " ++
    s!"max packet {p.maxPacketSize0}\n"

def productText : Option String → String
  | some product => s!"  Product: {product}\n"
  | none => ""

/-- Lines up to the first failure, and that failure. -/
abbrev Partial : Type := String × Option UsbError

/-- The lines of the items in their order; a failure ends them. -/
def untilFailure {α : Type} (text : α → Partial) : List (Except UsbError α) → Partial
  | [] => ("", none)
  | .error e :: _ => ("", some e)
  | .ok a :: rest =>
    match text a with
    | (line, some e) => (line, some e)
    | (line, none) =>
      let (lines, e) := untilFailure text rest
      (line ++ lines, e)

def treeText (tree : List (Except UsbError TreeText)) : Partial :=
  untilFailure (fun c =>
    let (lines, e) := untilFailure (fun (text, endpoints) =>
      let (lines, e) := untilFailure (fun text => (s!"      {text}\n", none)) endpoints
      (s!"    {text}\n{lines}", e)) c.interfaces
    (s!"  {c.text}\n{lines}", e)) tree

def transferText : Transferred → String
  | .written n => s!"Wrote {n} byte(s)\n"
  | .read data =>
    s!"Read {data.length} byte(s)\n" ++
      if data.isEmpty then "" else s!"  {Text.HexBytes.render data}\n"

end SerialBus.Probe
