import SerialBus.Backend.Basic
import SerialBus.Text.Blank

/-! The kinds of native backend, their names, and the choice among them. -/

namespace SerialBus

inductive BackendKind
  | libusb1
  | openUsb
  | libusb0
  deriving DecidableEq, Repr, Inhabited

namespace BackendKind

/-- The kinds in the order in which they are tried. -/
def priority : List BackendKind := [libusb1, openUsb, libusb0]

def name : BackendKind → String
  | libusb1 => "libusb1"
  | openUsb => "openusb"
  | libusb0 => "libusb0"

/-- The kind as a member of the enumeration. -/
def debugText : BackendKind → String
  | libusb1 => "Libusb1"
  | openUsb => "OpenUsb"
  | libusb0 => "Libusb0"

/-- The kinds by their names and by the names of their libraries. -/
def ofName? (s : String) : Option BackendKind :=
  if s = "libusb1" ∨ s = "libusb-1.0" then some libusb1
  else if s = "openusb" then some openUsb
  else if s = "libusb0" ∨ s = "libusb-0.1" then some libusb0
  else none

/-- A name without the blanks around it and in lower case. -/
def normalize (s : String) : String := String.ofList ((Text.trim s.toList).map Char.toLower)

def parse? (s : String) : Option BackendKind := ofName? (normalize s)

def parse (s : String) : Except UsbError BackendKind :=
  match parse? s with
  | some kind => .ok kind
  | none => .error (.invalidArgument s!"unknown backend '{normalize s}'")

/-- Why a kind cannot be used at all: no library for it is linked. -/
def unavailable? : BackendKind → Option UsbError
  | libusb1 => none
  | openUsb => some (.notSupported "openusb library not available")
  | libusb0 => some (.notSupported "libusb0 library not available")

/-- Starts the backend of a kind, where `start` starts that of libusb 1. -/
def probe {σ β : Type} (start : Action σ β) (kind : BackendKind) : Action σ β :=
  match kind.unavailable? with
  | none => start
  | some e => throw e

/-- The first backend in the order that can be started. -/
def select {σ β : Type} (start : Action σ β) : List BackendKind → Action σ β
  | [] => throw .noBackendAvailable
  | kind :: rest => do
    match ← attempt (probe start kind) with
    | .ok backend => return backend
    | .error _ => select start rest

end BackendKind

end SerialBus
