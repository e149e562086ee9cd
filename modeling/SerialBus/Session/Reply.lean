import SerialBus.Device.StandardRequest
import SerialBus.Device.Summary
import SerialBus.Device.View
import SerialBus.Loopback.Bus

/-! What the steps of a session answer. -/

namespace SerialBus.Session

/-- A view as it is shown: with its text and the number of its device. -/
structure Shown (α : Type) where
  view : α
  text : String
  device : DeviceId

/-- A device that a session has taken up: the place it was given, and its number. -/
structure Created where
  slot : Nat
  id : DeviceId

inductive Reply
  | unit
  | flag (b : Bool)
  | number (n : Nat)
  | optionalNumber (n : Option Nat)
  | bytes (data : List UInt8)
  | words (l : List UInt16)
  | optionalText (s : Option String)
  | text (s : String)
  | texts (l : List String)
  | transferred (t : Transferred)
  | device (d : Device) (backend : String)
  | summary (s : DeviceSummary)
  | configuration (c : Shown ConfigurationView)
  | interface (i : Shown InterfaceView)
  | endpoint (e : Shown EndpointView)
  | configurations (l : List (Except UsbError (Shown ConfigurationView)))
  | interfaces (l : List (Except UsbError (Shown InterfaceView)))
  | endpoints (l : List (Except UsbError (Shown EndpointView)))
  | tree (l : List (Except UsbError TreeText))
  | created (c : Option Created)
  | createdAll (l : List Created)
  | ids (l : List DeviceId)
  | interfaceNumbers (l : List UInt8)
  | deviceDescriptor (d : DeviceDescriptor)
  | configurationDescriptor (d : ConfigurationDescriptor)
  | interfaceDescriptor (d : InterfaceDescriptor)
  | endpointDescriptor (d : EndpointDescriptor)

end SerialBus.Session

namespace SerialBus.Device

open Session (Shown)

def showConfiguration (d : Device) (c : ConfigurationView) : Shown ConfigurationView :=
  ⟨c, c.text d.descriptor.isSuperspeed, d.id⟩

def showInterface (d : Device) (i : InterfaceView) : Shown InterfaceView := ⟨i, i.text, d.id⟩

def showEndpoint (d : Device) (e : EndpointView) : Shown EndpointView := ⟨e, e.text, d.id⟩

end SerialBus.Device
