import SerialBus.Proofs.Operation
import SerialBus.Proofs.Simulation

/-! Walks through descriptors in step with one another: it is enough that the two buses give the same
descriptors. -/
namespace SerialBus.Device

variable {σ τ α : Type} [Backend σ] [Backend τ]

/-- The two sides read descriptors in step. -/
structure Reads (Q : σ → τ → Prop) : Prop where
  act : ∀ {α : Type} (op : Operation α), op.reads → Simulates Q op.act op.act

namespace Reads

variable {Q : σ → τ → Prop} (hQ : Reads Q)

include hQ

theorem configurationCursor (id : DeviceId) (count : Nat) :
    Cursor.InStep Q (configurationCursor id count) (Device.configurationCursor id count) :=
  Cursor.inStep_ofIndex count fun i =>
    (hQ.act (.configurationDescriptor id i.toUInt8) rfl).bind fun _ => simulates_pure _

theorem configurationViews (e : Device) :
    Cursor.InStep Q (configurationViews (σ := σ) e) (Device.configurationViews e) :=
  Cursor.inStep_ofIndex _ fun i =>
    (hQ.act (.configurationDescriptor e.id i.toUInt8) rfl).bind fun _ => simulates_pure _

theorem endpointCursor (id : DeviceId) (l : InterfaceLocation) :
    Cursor.InStep Q (endpointCursor id l) (Device.endpointCursor id l) :=
  Cursor.inStep_ofIndex _ fun i =>
    (hQ.act (.endpointDescriptor id i.toUInt8 l.index l.alternateIndex l.config) rfl).bind
      fun _ => simulates_pure _

theorem endpoints (id : DeviceId) (i : InterfaceView) :
    Cursor.InStep Q (i.endpoints id) (i.endpoints id) :=
  Cursor.inStep_ofIndex _ fun n =>
    (hQ.act (.endpointDescriptor id n.toUInt8 i.index i.alternateIndex i.config) rfl).bind
      fun _ => simulates_pure _

theorem query (w : InterfaceWalk) : Simulates Q w.query w.query :=
  (hQ.act (.interfaceDescriptor w.device w.interface w.alternate w.config) rfl).attempted

theorem nextHere (w : InterfaceWalk) : Simulates Q w.nextHere w.nextHere := by
  unfold InterfaceWalk.nextHere
  refine simulates_ite (simulates_pure _) ((hQ.query w).bind fun item => ?_)
  cases item with
  | ok descriptor => exact simulates_pure _
  | error e => exact simulates_pure _

theorem walk : Cursor.InStep Q InterfaceWalk.cursor InterfaceWalk.cursor := by
  refine ⟨rfl, fun w => ?_⟩
  change Simulates Q w.next w.next
  unfold InterfaceWalk.next
  refine simulates_ite (simulates_pure _) ((hQ.query w).bind fun item => ?_)
  cases item with
  | ok descriptor => exact simulates_pure _
  | error e =>
    cases e with
    | invalidDescriptorIndex level index =>
      exact simulates_ite (hQ.nextHere _) (simulates_pure _)
    | _ => exact simulates_pure _

theorem tree (e : Device) : Simulates Q e.tree e.tree := by
  refine (hQ.configurationViews e).forEach (fun item => ?_) 0
  cases item with
  | error err => exact simulates_pure _
  | ok c =>
    refine (hQ.walk.forEach (fun item => ?_) _).bind fun _ => simulates_pure _
    cases item with
    | error err => exact simulates_pure _
    | ok i =>
      exact ((hQ.endpoints e.id i).forEach (fun _ => simulates_pure _) 0).bind
        fun _ => simulates_pure _

end Reads

end SerialBus.Device
