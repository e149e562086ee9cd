import SerialBus.Proofs.Loopback.Changes
import SerialBus.Proofs.Table
import SerialBus.Session.Testbed

/-! Who holds what on a loopback bus: the device of each open handle and the interfaces claimed on
it. Four operations change this, and only if they succeed. -/
namespace SerialBus.Loopback.Bus

open SerialBus.Action

/-- The device that a handle is open for, with what is claimed on the handle. -/
def owner (b : Bus) (h : HandleId) : Option (DeviceId × ByteSet) :=
  (b.handles.get? h).map fun held => (held.device, held.claimed)

theorem owner_eq_some {b : Bus} {h : HandleId} {id : DeviceId} {claimed : ByteSet} :
    b.owner h = some (id, claimed) ↔
      ∃ held, b.handles.get? h = some held ∧ held.device = id ∧ held.claimed = claimed := by
  simp [owner]

/-- The same handles are open with the same claims, and the next handle is the same. -/
structure SameOwners (b c : Bus) : Prop where
  owner : ∀ h, c.owner h = b.owner h
  nextHandle : c.nextHandle = b.nextHandle

theorem sameOwners_of_core_eq {b c : Bus} (h : c.core = b.core) : SameOwners b c := by
  have hh : c.core.handles = b.core.handles := by rw [h]
  have hn : c.core.nextHandle = b.core.nextHandle := by rw [h]
  change c.handles = b.handles at hh
  exact ⟨fun k => by simp only [owner, hh], hn⟩

/-- A change of a handle that leaves its device and its claims. -/
theorem sameOwners_modifyHandle {b c : Bus} {h : HandleId} {f : Handle → Handle}
    (hc : c.handles = b.handles.modify h f) (hn : c.nextHandle = b.nextHandle)
    (hf : ∀ held, (f held).device = held.device ∧ (f held).claimed = held.claimed) :
    SameOwners b c := by
  refine ⟨fun k => ?_, hn⟩
  unfold owner
  rw [hc]
  by_cases hk : h = k
  · subst hk
    rw [Table.get?_modify_self]
    cases b.handles.get? h with
    | none => rfl
    | some held => simp [hf]
  · rw [Table.get?_modify_of_ne hk]

/-- All operations but four leave the owners. -/
theorem sameOwners_act {α : Type} (op : Operation α) (hq : op.changesOwners = false) (b : Bus) :
    SameOwners b (after op.act b) := by
  obtain ⟨c, hchange, hcore⟩ := change_act op b
  have hsame : SameOwners b c := by
    cases hchange with
    | none | turned => exact ⟨fun _ => rfl, rfl⟩
    | selected | configured => exact sameOwners_modifyHandle rfl rfl fun _ => ⟨rfl, rfl⟩
    | opened | closed | claimed | released => cases hq
  have hkept : SameOwners c (after op.act b) := sameOwners_of_core_eq hcore
  exact ⟨fun h => (hkept.owner h).trans (hsame.owner h), hkept.nextHandle.trans hsame.nextHandle⟩

/-- Neither does what is done from outside. -/
theorem sameOwners_hook {b c : Bus} {h : Session.Hook} {r : Session.Reply}
    (hh : b.hook h = some (r, c)) : SameOwners b c := by
  cases h <;> cases hh <;> exact ⟨fun _ => rfl, rfl⟩

section

variable (b : Bus) (h : HandleId) (number : UInt8)

/-! The four operations that change who holds what: the call fails and the owners stay, or one
handle changes. -/

/-- Only the handle `h` is different, and `v` is what it is open for now. -/
structure Reowned (h : HandleId) (v : Option (DeviceId × ByteSet)) (b c : Bus) : Prop where
  owner : c.owner h = v
  others : ∀ i, i ≠ h → c.owner i = b.owner i

/-- How an operation that can change owners ends. -/
inductive Ends {α : Type} (changes : α → Bus → Bus → Prop) (b : Bus) :
    Except UsbError α → Bus → Prop
  | failed {e : UsbError} {c : Bus} (same : SameOwners b c) : Ends changes b (.error e) c
  | done {a : α} {c : Bus} (h : changes a b c) : Ends changes b (.ok a) c

/-- The next handle is open for the device, with nothing claimed on it. -/
def Opens (id : DeviceId) (h : HandleId) (b c : Bus) : Prop :=
  h = ⟨b.nextHandle⟩ ∧ Reowned h (some (id, ∅)) b c ∧ c.nextHandle = b.nextHandle + 1

def Closes (h : HandleId) (b c : Bus) : Prop :=
  Reowned h none b c ∧ c.nextHandle = b.nextHandle

/-- The interface was not claimed on the handle, and now it is. -/
def Claims (h : HandleId) (number : UInt8) (b c : Bus) : Prop :=
  c.nextHandle = b.nextHandle ∧ ∃ id claimed, b.owner h = some (id, claimed) ∧
    claimed.contains number = false ∧ Reowned h (some (id, claimed.add number)) b c

/-- The interface was claimed on the handle, and now it is not. -/
def Releases (h : HandleId) (number : UInt8) (b c : Bus) : Prop :=
  c.nextHandle = b.nextHandle ∧ ∃ id claimed, b.owner h = some (id, claimed) ∧
    claimed.contains number = true ∧ Reowned h (some (id, claimed.erase number)) b c

private theorem reowned_modifyHandle {c : Bus} {held : Handle} (f : Handle → Handle)
    (hc : c.handles = b.handles.modify h f) (hh : b.handles.get? h = some held) :
    Reowned h (some ((f held).device, (f held).claimed)) b c := by
  constructor
  · rw [owner, hc, Table.get?_modify_self, hh]
    rfl
  · intro i hi
    rw [owner, owner, hc, Table.get?_modify_of_ne (Ne.symm hi)]

theorem ends_openDevice (id : DeviceId) :
    Ends (Opens id) b (outcome (openDevice id) b) (after (openDevice id) b) := by
  rcases openDevice_cases b id with ⟨e, ho, hc⟩ | ⟨ho, hs⟩
  · rw [ho]
    exact .failed (sameOwners_of_core_eq hc)
  · rw [ho, hs]
    refine .done ⟨rfl, ⟨?_, fun i hi => ?_⟩, rfl⟩
    · rw [owner, Table.get?_insert_self]
      rfl
    · rw [owner, owner, Table.get?_insert_of_ne (Ne.symm hi)]

theorem ends_closeDevice :
    Ends (fun _ => Closes h) b (outcome (closeDevice h) b) (after (closeDevice h) b) := by
  rcases closeDevice_cases b h with ⟨e, ho, hc⟩ | ⟨ho, hs⟩
  · rw [ho]
    exact .failed (sameOwners_of_core_eq hc)
  · rw [ho, hs]
    refine .done ⟨⟨?_, fun i hi => ?_⟩, rfl⟩
    · rw [owner, Table.get?_erase_self]
      rfl
    · rw [owner, owner, Table.get?_erase_of_ne (Ne.symm hi)]

theorem ends_claimInterface :
    Ends (fun _ => Claims h number) b (outcome (claimInterface h number) b)
      (after (claimInterface h number) b) := by
  rcases claimInterface_cases b h number with ⟨e, ho, hc⟩ | ⟨held, hh, hn, ho, hs⟩
  · rw [ho]
    exact .failed (sameOwners_of_core_eq hc)
  · rw [ho, hs]
    refine .done ⟨rfl, held.device, held.claimed, by rw [owner, hh]; rfl, hn, ?_⟩
    exact reowned_modifyHandle b h
      (fun held => { held with claimed := held.claimed.add number }) rfl hh

theorem ends_releaseInterface :
    Ends (fun _ => Releases h number) b (outcome (releaseInterface h number) b)
      (after (releaseInterface h number) b) := by
  rcases releaseInterface_cases b h number with ⟨e, ho, hc⟩ | ⟨held, hh, hn, ho, hs⟩
  · rw [ho]
    exact .failed (sameOwners_of_core_eq hc)
  · rw [ho, hs]
    refine .done ⟨rfl, held.device, held.claimed, by rw [owner, hh]; rfl, hn, ?_⟩
    exact reowned_modifyHandle b h (fun held => { held with
      claimed := held.claimed.erase number
      alternates := held.alternates.erase number }) rfl hh

end

end SerialBus.Loopback.Bus
