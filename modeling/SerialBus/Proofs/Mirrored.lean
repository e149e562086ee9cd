import SerialBus.Proofs.Device.Elementary
import SerialBus.Proofs.Watched

/-! Devices on buses that mirror one another: each operation returns the same and leaves the same
device, so that what is seen on a watched bus is what happens on the bus itself. -/
namespace SerialBus.Device

open SerialBus.Action Session

variable {σ τ : Type} [Backend σ] [Backend τ] {view : σ → τ}

/-- The same device, on a bus and on its image. -/
def Seen (view : σ → τ) (s : Attachment σ) (t : Attachment τ) : Prop :=
  s.device = t.device ∧ view s.bus = t.bus

variable (m : Mirror view) (hname : Backend.name σ = Backend.name τ)

include m

theorem simulates_seen {α : Type} (d : Device) (op : Operation α) :
    Simulates (On .same (Seen view) d) ((op.renumbered .same).act : Action σ α) op.act := by
  rw [op.renumbered_same]
  rintro s _ ⟨-, rfl⟩
  obtain ⟨ho, ha⟩ := m.act op s
  exact ⟨ho, d.renumbered_same, ha⟩

theorem transfersInStep_seen : TransfersInStep .same (Seen view) := fun d {_} op _ =>
  simulates_seen m d op

include hname

theorem elementary_seen : Elementary .same (Seen view) where
  name := hname
  device := fun h => by rw [h.1, Device.renumbered_same]
  openDevice d := (simulates_map_iff fun _ => rfl).2 (simulates_seen m d (.openDevice d.id))
  bus := fun d {_} op _ _ _ => simulates_seen m d op
  claim d h number := simulates_seen m d (.claimInterface h number)
  modify f g hfg _ := fun s t h => by
    rw [Device.eq_of_same hfg]
    exact ⟨rfl, congrArg g h.1, h.2⟩

theorem simulates_transfer (endpoint : UInt8) (payload : Payload) (target : InterfaceTarget)
    (timeout : Option Nat) :
    Simulates (Seen view) (transfer endpoint payload target timeout)
      (transfer endpoint payload target timeout) :=
  (elementary_seen m hname).inStep.transfer (transfersInStep_seen m) _ _ _ _

end SerialBus.Device
