import SerialBus.Proofs.Loopback.Owners

/-! What the operations of a loopback bus leave alone. Six of them change handles, only one of these
changes which configuration a device is in, and three change what a device stores of control
requests. -/
namespace SerialBus

/-- Whether the operation leaves each handle with its device and each device as it is configured. -/
def Operation.isSteady {α : Type} : Operation α → Bool
  | .openDevice .. | .closeDevice .. | .setConfiguration .. => false
  | _ => true

theorem Operation.isSteady_of_isQuiet {α : Type} {op : Operation α} (hq : op.isQuiet)
    (hs : op.selects = false) : op.isSteady := by
  cases op with
  | openDevice | closeDevice => cases hq
  | setConfiguration => cases hs
  | _ => rfl

/-- Whether the operation can change what a device stores of control requests. -/
def Operation.stores {α : Type} : Operation α → Bool
  | .controlTransfer .. | .resetDevice _ | .clearHalt .. => true
  | _ => false

/-- Whether the operation selects a configuration. -/
def Operation.configures {α : Type} : Operation α → Bool
  | .setConfiguration .. => true
  | _ => false

namespace Loopback

open SerialBus.Action

/-- What the descriptors of a device and their routing depend on. -/
def DeviceState.profile (d : DeviceState) : Device × UInt8 := (d.spec, d.activeConfiguration)

/-- The data that a control request has left, and the halts. -/
def DeviceState.stored (d : DeviceState) : List UInt8 × ByteSet := (d.controlBuffer, d.halted)

namespace Bus

variable {α : Type} {b c : Bus}

/-- Each device has the same descriptors and is in the same configuration. -/
def SameProfiles (b c : Bus) : Prop :=
  ∀ id, (c.device? id).map DeviceState.profile = (b.device? id).map DeviceState.profile

theorem SameProfiles.refl (b : Bus) : SameProfiles b b := fun _ => rfl

theorem sameProfiles_of_devices (h : c.devices = b.devices) : SameProfiles b c := same_of_devices h

/-- Neither handles nor profiles are changed. -/
structure Routine (b c : Bus) : Prop where
  handles : c.handles = b.handles
  profiles : SameProfiles b c

theorem routine_of_core_eq (h : c.core = b.core) : Routine b c :=
  ⟨congrArg (·.handles) h, sameProfiles_of_devices (congrArg (·.devices) h)⟩

/-- The configuration of a device is changed by one operation only. -/
theorem Turns.profile {d d' : DeviceState} {op : Operation α} (h : Turns d op d')
    (hq : op.configures = false) : d'.profile = d.profile := by
  have hactive : d'.activeConfiguration = d.activeConfiguration := by
    cases h with
    | configured h value => cases hq
    | moved _ hmove =>
      obtain ⟨pipes, hr⟩ := pipes_of_moveData hmove
      rw [hr]
    | stored hstore =>
      obtain ⟨buffer, halted, hd⟩ := stored_of_controlStore hstore
      rw [hd]
    | _ => rfl
  unfold DeviceState.profile
  rw [h.spec, hactive]

theorem sameProfiles_act (op : Operation α) (hq : op.configures = false) (b : Bus) :
    SameProfiles b (after op.act b) := same_act (fun h => h.profile hq) b

/-- All operations but six are routine. -/
theorem routine_act (op : Operation α) (hq : op.changesHandles = false) (b : Bus) :
    Routine b (after op.act b) := by
  have hconfigures : op.configures = false := by
    cases op with
    | setConfiguration => cases hq
    | _ => rfl
  exact ⟨handles_act hq b, sameProfiles_act op hconfigures b⟩

/-- What is changed from outside is what fails and what is counted. -/
theorem routine_hook {h : Session.Hook} {r : Session.Reply} (hk : b.hook h = some (r, c)) :
    Routine b c := by
  cases h <;> cases hk <;> exact ⟨rfl, fun _ => rfl⟩

/-! What devices store of control requests. -/

def SameStored (b c : Bus) : Prop := Same DeviceState.stored b c

theorem sameStored_of_core_eq (h : c.core = b.core) : SameStored b c :=
  same_of_devices (congrArg (·.devices) h)

/-- All operations but three leave what devices store. -/
theorem sameStored_act (op : Operation α) (hs : op.stores = false) (b : Bus) :
    SameStored b (after op.act b) := by
  apply same_act
  intro d d' hturns
  cases hturns with
  | moved _ hmove =>
    obtain ⟨pipes, hr⟩ := pipes_of_moveData hmove
    rw [hr]
    rfl
  | stored | emptied | resumed => cases hs
  | _ => rfl

/-- Each handle stays with its device, and each device in its configuration. -/
structure Steady (b c : Bus) : Prop where
  handles : ∀ h held, b.handles.get? h = some held →
    ∃ other, c.handles.get? h = some other ∧ other.device = held.device
  profiles : SameProfiles b c

theorem Routine.steady (h : Routine b c) : Steady b c :=
  ⟨fun i held hi => ⟨held, by rw [h.handles, hi], rfl⟩, h.profiles⟩

theorem steady_of_core_eq (h : c.core = b.core) : Steady b c := (routine_of_core_eq h).steady

/-- A change of one handle that leaves it with its device. -/
theorem steady_modifyHandle {h : HandleId} {f : Handle → Handle}
    (hf : ∀ held, (f held).device = held.device) : Steady b (b.modifyHandle h f) := by
  refine ⟨fun i held hi => ?_, fun _ => rfl⟩
  by_cases heq : h = i
  · subst heq
    have hget : (b.modifyHandle h f).handles.get? h = (b.handles.get? h).map f :=
      Table.get?_modify_self
    rw [hget, hi]
    exact ⟨f held, rfl, hf held⟩
  · have hget : (b.modifyHandle h f).handles.get? i = b.handles.get? i :=
      Table.get?_modify_of_ne heq
    rw [hget, hi]
    exact ⟨held, rfl, rfl⟩

theorem steady_act (op : Operation α) (hs : op.isSteady) (b : Bus) :
    Steady b (after op.act b) := by
  have hconfigures : op.configures = false := by
    cases op with
    | setConfiguration => cases hs
    | _ => rfl
  obtain ⟨c, hchange, hcore⟩ := change_act op b
  have hsteady : Steady b c := by
    cases hchange with
    | none => exact steady_of_core_eq rfl
    | claimed | released | selected => exact steady_modifyHandle fun _ => rfl
    | turned _ _ hf =>
      exact ⟨fun _ held hi => ⟨held, hi, rfl⟩,
        same_modifyDevice fun d hd => (hf d hd).profile hconfigures⟩
    | opened | closed | configured => cases hs
  have hhandles : (after op.act b).handles = c.handles := congrArg (·.handles) hcore
  refine ⟨fun h held hget => ?_, sameProfiles_act op hconfigures b⟩
  rw [hhandles]
  exact hsteady.handles h held hget

end Bus

end Loopback

end SerialBus
