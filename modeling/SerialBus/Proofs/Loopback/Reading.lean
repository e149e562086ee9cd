import SerialBus.Device.Holdings
import SerialBus.Proofs.Gives
import SerialBus.Proofs.Loopback.Assembly
import SerialBus.Proofs.Loopback.Operations

/-! Reading the descriptors of a loopback device where nothing is made to fail. The walks through
interfaces and endpoints come by all that there is, in order. -/
namespace SerialBus.Loopback

open SerialBus.Action

/-- The buses that differ from `c` in counters only. -/
def AtCore (c b : Bus) : Prop := b.core = c.core

namespace AtCore

variable {c b : Bus} (h : AtCore c b)

include h

theorem failures : b.failures = c.failures := (Bus.mk.inj h).2.2.2.2.1

theorem devices : b.devices = c.devices := (Bus.mk.inj h).1

theorem handles : b.handles = c.handles := (Bus.mk.inj h).2.1

theorem device? (id : DeviceId) : b.device? id = c.device? id := by
  rw [Bus.device?, h.devices, Bus.device?]

end AtCore

section

variable {id : DeviceId} {c : Bus} {d : DeviceState} (hf : c.failures = ∅)
  (hd : c.device? id = some d)

theorem gives_of_core {α : Type} {act : Action Bus α} {r : Except UsbError α}
    (ho : ∀ b, AtCore c b → outcome act b = r) (hc : ∀ b, (after act b).core = b.core) :
    Gives (AtCore c) act r (AtCore c) := fun b hb => ⟨ho b hb, (hc b).trans hb⟩

theorem map_bind_unchanged {α β : Type} (x : Except UsbError β) (f : β → α) :
    (x.bind fun r => Bus.unchanged (f r)).map Prod.fst = x.map f := by
  cases x <;> rfl

include hf hd

/-- The result of an operation that asks for a device, where it is not made to fail. -/
private theorem outcome_serve_withDevice {α : Type} {m : Method}
    {answer : DeviceState → Bus.Answer α} {b : Bus} (hb : AtCore c b) :
    outcome (Bus.serve m none (Bus.withDevice id answer)) b = (answer d).map Prod.fst := by
  rw [Bus.outcome_serve, hb.failures, hf, Bus.withDevice, hb.device?, hd]
  rfl

theorem gives_configurationDescriptor (config : UInt8) :
    Gives (AtCore c) (Backend.configurationDescriptor id config : Action Bus _)
      ((Bus.configurationOf d.spec config).map (·.descriptor)) (AtCore c) := by
  refine gives_of_core (fun b hb => ?_) (Bus.core_configurationDescriptor id config)
  change outcome (Bus.configurationDescriptor id config) b = _
  rw [Bus.configurationDescriptor_eq_serve, outcome_serve_withDevice hf hd hb, map_bind_unchanged]

theorem gives_interfaceDescriptor (interface alternate config : UInt8) :
    Gives (AtCore c) (Backend.interfaceDescriptor id interface alternate config : Action Bus _)
      ((Bus.alternateOf d.spec interface alternate config).map (·.descriptor)) (AtCore c) := by
  refine gives_of_core (fun b hb => ?_) (Bus.core_interfaceDescriptor id interface alternate config)
  change outcome (Bus.interfaceDescriptor id interface alternate config) b = _
  rw [Bus.interfaceDescriptor_eq_serve, outcome_serve_withDevice hf hd hb, map_bind_unchanged]

theorem gives_endpointDescriptor (endpoint interface alternate config : UInt8) :
    Gives (AtCore c)
      (Backend.endpointDescriptor id endpoint interface alternate config : Action Bus _)
      (Bus.endpointOf d.spec endpoint interface alternate config) (AtCore c) := by
  refine gives_of_core (fun b hb => ?_)
    (Bus.core_endpointDescriptor id endpoint interface alternate config)
  change outcome (Bus.endpointDescriptor id endpoint interface alternate config) b = _
  rw [Bus.endpointDescriptor_eq_serve, outcome_serve_withDevice hf hd hb]
  exact (map_bind_unchanged _ fun e => e).trans (by cases Bus.endpointOf .. <;> rfl)

end

/-! Positions as bytes. -/

theorem toNat_toUInt8 {n : Nat} (h : n < 256) : n.toUInt8.toNat = n :=
  UInt8.toNat_ofNat_of_lt' h

theorem toUInt8_toNat (b : UInt8) : b.toNat.toUInt8 = b := UInt8.ofNat_toNat

/-! What is read by position, as lists. -/

section

variable {σ α : Type} {P : σ → Prop}

theorem gives_find_ofIndex_from (items : List α) (start : Nat) {load : Nat → Action σ α}
    (hload : ∀ i x, items[i]? = some x → Gives P (load (start + i)) (.ok x) P)
    (test : α → Bool) :
    Gives P ((Cursor.ofIndex (start + items.length) load).find test start)
      (.ok (items.find? test)) P := by
  unfold Cursor.find
  rw [show (Cursor.ofIndex (start + items.length) load).bound start = items.length from
    Nat.add_sub_cancel_left start items.length]
  induction items generalizing start with
  | nil => exact gives_pure _
  | cons x rest ih =>
    have hnext : Gives P ((Cursor.ofIndex (start + (x :: rest).length) load).next start)
        (.ok (some (.ok x, start + 1))) P := by
      have hlt : start < start + (x :: rest).length := by simp
      simp only [Cursor.ofIndex, if_pos hlt]
      exact (hload 0 x rfl).attempted.map fun item => some (item, start + 1)
    have hrest := ih (start + 1) fun i y hy => by
      rw [Nat.add_assoc, Nat.add_comm 1 i]
      exact hload (i + 1) y hy
    rw [show start + 1 + rest.length = start + (x :: rest).length by simp; omega] at hrest
    unfold Cursor.findUpTo
    apply hnext.bind
    rw [List.find?_cons]
    dsimp only
    cases test x with
    | true => exact gives_pure _
    | false => exact hrest

/-- A search through what is read by position is a search in the list of it. -/
theorem gives_find_ofIndex (items : List α) (load : Nat → Action σ α)
    (hload : ∀ i x, items[i]? = some x → Gives P (load i) (.ok x) P) (test : α → Bool) :
    Gives P ((Cursor.ofIndex items.length load).find test 0) (.ok (items.find? test)) P := by
  have hload' : ∀ i x, items[i]? = some x → Gives P (load (0 + i)) (.ok x) P := fun i x hx => by
    rw [Nat.zero_add]
    exact hload i x hx
  have hfrom := gives_find_ofIndex_from items 0 hload' test
  rwa [Nat.zero_add] at hfrom

end

end SerialBus.Loopback
