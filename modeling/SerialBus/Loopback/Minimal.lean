import SerialBus.Loopback.Operations

/-!
A loopback bus reduced to what every backend must offer, with replies that can be fixed in advance.
-/

namespace SerialBus.Loopback

structure Minimal where
  bus : Bus
  bulkReply : Option Transferred := none
  interruptReply : Option Transferred := none
  controlReply : Option Transferred := none
  deriving DecidableEq

namespace Minimal

def onInner {α : Type} (act : Action Bus α) : Action Minimal α := fun m =>
  match act m.bus with
  | .ok a b => .ok a { m with bus := b }
  | .error e b => .error e { m with bus := b }

/-- The fixed reply, or what the bus does if there is none. -/
def replyOr (reply : Option Transferred) (act : Action Bus Transferred) :
    Action Minimal Transferred :=
  match reply with
  | some r => return r
  | none => onInner act

/-- The transfer methods with replies that can be fixed, by name. -/
def setReply (m : Minimal) (method : Method) (reply : Option Transferred) : Minimal :=
  match method with
  | .bulkTransfer => { m with bulkReply := reply }
  | .interruptTransfer => { m with interruptReply := reply }
  | .ctrlTransfer => { m with controlReply := reply }
  | _ => m

instance : Backend Minimal where
  name := "minimal"
  devices := onInner Bus.enumerate
  deviceDescriptor id := onInner (Bus.deviceDescriptor id)
  configurationDescriptor id config := onInner (Bus.configurationDescriptor id config)
  interfaceDescriptor id interface alternate config :=
    onInner (Bus.interfaceDescriptor id interface alternate config)
  endpointDescriptor id endpoint interface alternate config :=
    onInner (Bus.endpointDescriptor id endpoint interface alternate config)
  openDevice id := onInner (Bus.openDevice id)
  closeDevice h := onInner (Bus.closeDevice h)
  setConfiguration h value := onInner (Bus.setConfiguration h value)
  claimInterface h number := onInner (Bus.claimInterface h number)
  releaseInterface h number := onInner (Bus.releaseInterface h number)
  setAlternate h number alternate := onInner (Bus.setAlternate h number alternate)
  bulkTransfer h endpoint number payload timeout := do
    replyOr (← get).bulkReply
      (Bus.dataTransfer .bulkTransfer .bulk h endpoint number payload timeout)
  interruptTransfer h endpoint number payload timeout := do
    replyOr (← get).interruptReply
      (Bus.dataTransfer .interruptTransfer .interrupt h endpoint number payload timeout)
  controlTransfer h setup payload timeout := do
    replyOr (← get).controlReply (Bus.controlTransfer h setup payload timeout)
  resetDevice h := onInner (Bus.resetDevice h)

end Minimal

end SerialBus.Loopback
