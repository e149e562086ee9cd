import SerialBus.Cursor

/-!
A walk through the alternate settings of a configuration. How many alternates an interface has is
declared nowhere, so they are asked for one after another until the backend says that there is no
such index.
-/

namespace SerialBus

/-- One alternate setting, with its position in the descriptor tree. -/
structure InterfaceLocation where
  config : UInt8
  index : UInt8
  alternateIndex : UInt8
  descriptor : InterfaceDescriptor
  deriving DecidableEq, Repr, Inhabited

/-- A place in the walk: the pair of indices that comes next, or the end. -/
structure InterfaceWalk where
  device : DeviceId
  config : UInt8
  numInterfaces : UInt8
  interface : UInt8 := 0
  alternate : UInt8 := 0
  done : Bool := false
  deriving DecidableEq, Repr, Inhabited

namespace InterfaceWalk

def finished (w : InterfaceWalk) : Bool := w.done || w.numInterfaces ≤ w.interface

def stop (w : InterfaceWalk) : InterfaceWalk := { w with done := true }

/-- The first alternate of the next interface; index 255 is never reached. -/
def nextInterface (w : InterfaceWalk) : InterfaceWalk :=
  if w.interface < 254 then { w with interface := w.interface + 1, alternate := 0 }
  else { w with interface := 255, alternate := 0, done := true }

def nextAlternate (w : InterfaceWalk) : InterfaceWalk :=
  if w.alternate < 255 then { w with alternate := w.alternate + 1 } else w.nextInterface

def locate (w : InterfaceWalk) (descriptor : InterfaceDescriptor) : InterfaceLocation where
  config := w.config
  index := w.interface
  alternateIndex := w.alternate
  descriptor

/-- A bound on the queries that are still to come. -/
def remaining (w : InterfaceWalk) : Nat :=
  if w.finished then 0
  else (w.numInterfaces.toNat - w.interface.toNat) * 256 - w.alternate.toNat

variable {σ : Type} [Backend σ]

/-- Asks for the alternate at the current place. -/
def query (w : InterfaceWalk) : Action σ (Except UsbError InterfaceDescriptor) :=
  attempt (Backend.interfaceDescriptor w.device w.interface w.alternate w.config)

/-- The item at the current place, where any failure ends the walk. -/
def nextHere (w : InterfaceWalk) :
    Action σ (Option (Except UsbError InterfaceLocation × InterfaceWalk)) := do
  if w.finished then return none
  match ← w.query with
  | .ok descriptor => return some (.ok (w.locate descriptor), w.nextAlternate)
  | .error e => return some (.error e, w.stop)

/-- The next item; a missing index behind the first alternate leads to the next interface. -/
def next (w : InterfaceWalk) :
    Action σ (Option (Except UsbError InterfaceLocation × InterfaceWalk)) := do
  if w.finished then return none
  match ← w.query with
  | .ok descriptor => return some (.ok (w.locate descriptor), w.nextAlternate)
  | .error e =>
    match e with
    | .invalidDescriptorIndex .. =>
      if 0 < w.alternate then w.nextInterface.nextHere else return some (.error e, w.stop)
    | _ => return some (.error e, w.stop)

def cursor : Cursor σ InterfaceWalk InterfaceLocation where
  next := next
  bound := remaining

end InterfaceWalk

end SerialBus
