import SerialBus.Proofs.Loopback.Frames
import SerialBus.Proofs.Simulation

/-! A bus that devices share, beside one that a single device has to itself. To this device the two
are the same but for the numbers of its handles. Whatever it does keeps them so, and touches neither
the other devices nor the handles of anybody else. -/
namespace SerialBus.Loopback.Bus

open SerialBus.Action

variable {α : Type} {ρ : HandleId → HandleId} {id : DeviceId} {b₀ b c : Bus}

/-- To the device the bus `b` is what `c` is, where nobody else opens handles, and what is the
handle `h` of `c` is `ρ h` on `b`. -/
structure Alike (ρ : HandleId → HandleId) (id : DeviceId) (b c : Bus) : Prop where
  failures : b.failures = c.failures
  specs : b.devices.map DeviceState.spec = c.devices.map DeviceState.spec
  state : b.device? id = c.device? id
  handles : ∀ h, b.handles.get? (ρ h) = c.handles.get? h
  owned : ∀ h held, c.handles.get? h = some held → held.device = id ∧ h.number < c.nextHandle
  next : ∀ n, ρ ⟨c.nextHandle + n⟩ = ⟨b.nextHandle + n⟩

/-- A number that was given to no handle that is open for the device. -/
def Foreign (id : DeviceId) (b : Bus) (h : HandleId) : Prop :=
  h.number < b.nextHandle ∧ ∀ held, b.handles.get? h = some held → held.device ≠ id

/-- Between `b₀` and `b` nothing has happened but to the device and its handles. -/
structure Spares (id : DeviceId) (b₀ b : Bus) : Prop where
  failures : b.failures = b₀.failures
  specs : b.devices.map DeviceState.spec = b₀.devices.map DeviceState.spec
  states : ∀ i, i ≠ id → b.device? i = b₀.device? i
  handles : ∀ h, Foreign id b₀ h → b.handles.get? h = b₀.handles.get? h
  next : b₀.nextHandle ≤ b.nextHandle

/-- Both at once, from the shared bus `b₀` on. -/
structure Beside (ρ : HandleId → HandleId) (id : DeviceId) (b₀ b c : Bus) : Prop where
  alike : Alike ρ id b c
  spares : Spares id b₀ b

theorem Alike.beside (h : Alike ρ id b c) : Beside ρ id b b c :=
  ⟨h, rfl, rfl, fun _ _ => rfl, fun _ _ => rfl, Nat.le_refl _⟩

theorem Alike.unopened (h : Alike ρ id b c) {n : Nat} (hn : c.nextHandle ≤ n) :
    c.handles.get? ⟨n⟩ = none := by
  cases hget : c.handles.get? ⟨n⟩ with
  | none => rfl
  | some held => exact absurd (h.owned _ held hget).2 (Nat.not_lt.2 hn)

theorem map_spec_device? (b : Bus) (i : DeviceId) :
    (b.device? i).map DeviceState.spec = (b.devices.map DeviceState.spec)[i.number]? := by
  rw [List.getElem?_map, device?]

/-- What keeps the descriptors of a device keeps those of all. -/
theorem specs_modifyDevice {f : DeviceState → DeviceState}
    (hf : ∀ d, b.device? id = some d → (f d).spec = d.spec) :
    (b.modifyDevice id f).devices.map DeviceState.spec = b.devices.map DeviceState.spec := by
  apply List.ext_getElem?
  intro n
  have hn : ∀ b : Bus,
      (b.devices.map DeviceState.spec)[n]? = (b.device? ⟨n⟩).map DeviceState.spec :=
    fun b => (map_spec_device? b ⟨n⟩).symm
  rw [hn, hn, device?_modifyDevice]
  split
  next heq =>
    subst heq
    cases hd : b.device? ⟨n⟩ with
    | none => rfl
    | some d => exact congrArg some (hf d hd)
  next => rfl

namespace Beside

section

variable (h : Beside ρ id b₀ b c)

include h

theorem counted (m : Method) (t : Option Nat) :
    Beside ρ id b₀ (b.counted m t) (c.counted m t) where
  alike := ⟨h.alike.failures, h.alike.specs, h.alike.state, h.alike.handles, h.alike.owned,
    h.alike.next⟩
  spares := ⟨h.spares.failures, h.spares.specs, h.spares.states, h.spares.handles, h.spares.next⟩

theorem modifyDevice {f : DeviceState → DeviceState}
    (hf : ∀ d, c.device? id = some d → (f d).spec = d.spec) :
    Beside ρ id b₀ (b.modifyDevice id f) (c.modifyDevice id f) := by
  have hspecs : (b.modifyDevice id f).devices.map DeviceState.spec =
      b.devices.map DeviceState.spec := specs_modifyDevice (h.alike.state ▸ hf)
  constructor
  · refine ⟨h.alike.failures, ?_, ?_, h.alike.handles, h.alike.owned, h.alike.next⟩
    · rw [hspecs, specs_modifyDevice hf]
      exact h.alike.specs
    · rw [device?_modifyDevice, device?_modifyDevice, h.alike.state]
  · refine ⟨h.spares.failures, hspecs.trans h.spares.specs, fun i hi => ?_, h.spares.handles,
      h.spares.next⟩
    rw [device?_modifyDevice, if_neg (Ne.symm hi)]
    exact h.spares.states i hi

/-- Handles of others have no counterpart. -/
theorem of_foreign {k : HandleId} (hk : Foreign id b₀ (ρ k)) : c.handles.get? k = none := by
  cases hget : c.handles.get? k with
  | none => rfl
  | some held =>
    have hshared := (h.spares.handles _ hk).symm.trans ((h.alike.handles k).trans hget)
    exact absurd (h.alike.owned k held hget).1 (hk.2 held hshared)

/-- The tables of handles change in the same way, and the handles of others stay. -/
theorem withHandles {s t : Table HandleId Handle} {n : Nat}
    (hs : ∀ k, s.get? (ρ k) = t.get? k)
    (ho : ∀ k held, t.get? k = some held → held.device = id ∧ k.number < c.nextHandle + n)
    (hothers : ∀ i, Foreign id b₀ i → s.get? i = b.handles.get? i) :
    Beside ρ id b₀ { b with handles := s, nextHandle := b.nextHandle + n }
      { c with handles := t, nextHandle := c.nextHandle + n } := by
  constructor
  · refine ⟨h.alike.failures, h.alike.specs, h.alike.state, hs, ho, fun m => ?_⟩
    have hnext := h.alike.next (n + m)
    rwa [← Nat.add_assoc, ← Nat.add_assoc] at hnext
  · refine ⟨h.spares.failures, h.spares.specs, h.spares.states, fun i hi => ?_, ?_⟩
    · exact (hothers i hi).trans (h.spares.handles i hi)
    · exact Nat.le_trans h.spares.next (Nat.le_add_right _ _)

variable (hρ : Function.Injective ρ)

include hρ

theorem modifyHandle (k : HandleId) {f : Handle → Handle}
    (hf : ∀ held, (f held).device = held.device) :
    Beside ρ id b₀ (b.modifyHandle (ρ k) f) (c.modifyHandle k f) := by
  refine h.withHandles (n := 0) (fun i => ?_) (fun i held hi => ?_) fun i hi => ?_
  · by_cases hk : k = i
    · subst hk
      rw [Table.get?_modify_self, Table.get?_modify_self, h.alike.handles]
    · rw [Table.get?_modify_of_ne hk, Table.get?_modify_of_ne fun heq => hk (hρ heq)]
      exact h.alike.handles i
  · by_cases hk : k = i
    · subst hk
      rw [Table.get?_modify_self] at hi
      obtain ⟨held, hget, rfl⟩ := Option.map_eq_some_iff.1 hi
      rw [hf]
      exact h.alike.owned k held hget
    · rw [Table.get?_modify_of_ne hk] at hi
      exact h.alike.owned i held hi
  · by_cases hk : ρ k = i
    · subst hk
      rw [Table.get?_modify_self, h.alike.handles, h.of_foreign hi]
      rfl
    · exact Table.get?_modify_of_ne hk

theorem erase (k : HandleId) :
    Beside ρ id b₀ { b with handles := b.handles.erase (ρ k) }
      { c with handles := c.handles.erase k } := by
  refine h.withHandles (n := 0) (fun i => ?_) (fun i held hi => ?_) fun i hi => ?_
  · by_cases hk : k = i
    · subst hk
      rw [Table.get?_erase_self, Table.get?_erase_self]
    · rw [Table.get?_erase_of_ne hk, Table.get?_erase_of_ne fun heq => hk (hρ heq)]
      exact h.alike.handles i
  · by_cases hk : k = i
    · subst hk
      rw [Table.get?_erase_self] at hi
      cases hi
    · rw [Table.get?_erase_of_ne hk] at hi
      exact h.alike.owned i held hi
  · by_cases hk : ρ k = i
    · subst hk
      rw [Table.get?_erase_self, h.alike.handles, h.of_foreign hi]
    · exact Table.get?_erase_of_ne hk

/-- The next handles of both buses are opened. -/
theorem insert {held : Handle} (hd : held.device = id) :
    Beside ρ id b₀
      { b with
        handles := b.handles.insert ⟨b.nextHandle⟩ held
        nextHandle := b.nextHandle + 1 }
      { c with
        handles := c.handles.insert ⟨c.nextHandle⟩ held
        nextHandle := c.nextHandle + 1 } := by
  have hnext : ρ ⟨c.nextHandle⟩ = ⟨b.nextHandle⟩ := h.alike.next 0
  refine h.withHandles (fun i => ?_) (fun i other hi => ?_) fun i hi => ?_
  · rw [← hnext]
    by_cases hk : ⟨c.nextHandle⟩ = i
    · subst hk
      rw [Table.get?_insert_self, Table.get?_insert_self]
    · rw [Table.get?_insert_of_ne hk, Table.get?_insert_of_ne fun heq => hk (hρ heq)]
      exact h.alike.handles i
  · by_cases hk : ⟨c.nextHandle⟩ = i
    · subst hk
      rw [Table.get?_insert_self] at hi
      cases hi
      exact ⟨hd, Nat.lt_succ_self _⟩
    · rw [Table.get?_insert_of_ne hk] at hi
      exact (h.alike.owned i other hi).imp_right Nat.lt_succ_of_lt
  · apply Table.get?_insert_of_ne
    rintro rfl
    exact absurd hi.1 (Nat.not_lt.2 h.spares.next)

end

end Beside

/-! Answers on both buses. -/

/-- The two answers are the same, and what they change leaves the buses as they are to the device. -/
inductive Matched (ρ : HandleId → HandleId) (id : DeviceId) (b₀ b c : Bus) :
    Answer α → Answer α → Prop
  | refused (e : UsbError) : Matched ρ id b₀ b c (.error e) (.error e)
  | done (a : α) {f g : Bus → Bus}
    (h : ∀ m t, Beside ρ id b₀ (f (b.counted m t)) (g (c.counted m t))) :
    Matched ρ id b₀ b c (.ok (a, f)) (.ok (a, g))

/-- Calls are in step if their answers match. -/
theorem simulates_serve (m : Method) (timeout : Option Nat) {answer other : Bus → Answer α}
    (hm : ∀ b c, Beside ρ id b₀ b c → Matched ρ id b₀ b c (answer b) (other c)) :
    Simulates (Beside ρ id b₀) (serve m timeout answer) (serve m timeout other) := by
  intro b c h
  have hcounted := h.counted
  have hmatched := hm b c h
  simp only [outcome, after, serve, h.alike.failures]
  cases c.failures.get? m with
  | some kind => exact ⟨rfl, hcounted m none⟩
  | none =>
    generalize answer b = x at hmatched ⊢
    generalize other c = y at hmatched ⊢
    cases hmatched with
    | refused e => exact ⟨rfl, hcounted m timeout⟩
    | done a hdone => exact ⟨rfl, hdone m timeout⟩

section

variable (h : Beside ρ id b₀ b c)

include h

theorem matched_unchanged (a : α) : Matched ρ id b₀ b c (unchanged a) (unchanged a) :=
  .done a h.counted

theorem matched_bind_unchanged {β : Type} (x : Except UsbError β) (f : β → α) :
    Matched ρ id b₀ b c (x.bind fun r => unchanged (f r)) (x.bind fun r => unchanged (f r)) := by
  cases x with
  | error e => exact .refused e
  | ok r => exact matched_unchanged h (f r)

omit h in
theorem matched_ite {p : Prop} [Decidable p] {x x' y y' : Answer α}
    (hx : Matched ρ id b₀ b c x x') (hy : Matched ρ id b₀ b c y y') :
    Matched ρ id b₀ b c (if p then x else y) (if p then x' else y') := by
  split
  · exact hx
  · exact hy

theorem matched_withHandle (k : HandleId) {answer other : Handle → Answer α}
    (hm : ∀ held, held.device = id → Matched ρ id b₀ b c (answer held) (other held)) :
    Matched ρ id b₀ b c (withHandle (ρ k) answer b) (withHandle k other c) := by
  unfold withHandle
  rw [h.alike.handles]
  cases hk : c.handles.get? k with
  | none => exact .refused _
  | some held => exact hm held (h.alike.owned k held hk).1

/-- The state of the device is the same on both buses. -/
theorem matched_withDevice {i : DeviceId} (hi : i = id) {answer other : DeviceState → Answer α}
    (hm : ∀ d, c.device? id = some d → Matched ρ id b₀ b c (answer d) (other d)) :
    Matched ρ id b₀ b c (withDevice i answer b) (withDevice i other c) := by
  subst hi
  unfold withDevice
  rw [h.alike.state]
  cases hd : c.device? i with
  | none => exact .refused _
  | some d => exact hm d hd

/-- So are the descriptors of all devices. -/
theorem matched_reading (i : DeviceId) {answer : Device → Answer α}
    (hm : ∀ spec, Matched ρ id b₀ b c (answer spec) (answer spec)) :
    Matched ρ id b₀ b c (withDevice i (fun d => answer d.spec) b)
      (withDevice i (fun d => answer d.spec) c) := by
  have hspec : (b.device? i).map DeviceState.spec = (c.device? i).map DeviceState.spec := by
    rw [map_spec_device?, map_spec_device?, h.alike.specs]
  unfold withDevice
  cases hb : b.device? i with
  | none =>
    rw [hb] at hspec
    rw [Option.map_eq_none_iff.1 hspec.symm]
    exact .refused _
  | some d =>
    rw [hb] at hspec
    obtain ⟨e, he, hsame⟩ := Option.map_eq_some_iff.1 hspec.symm
    rw [he]
    dsimp only
    rw [hsame]
    exact hm _

theorem matched_modifyDevice (a : α) {i : DeviceId} (hi : i = id)
    {f : DeviceState → DeviceState} (hf : ∀ d, c.device? id = some d → (f d).spec = d.spec) :
    Matched ρ id b₀ b c (.ok (a, fun b => b.modifyDevice i f))
      (.ok (a, fun c => c.modifyDevice i f)) := by
  subst hi
  exact .done a fun m t => (h.counted m t).modifyDevice hf

theorem matched_modifyHandle (hρ : Function.Injective ρ) (a : α) (k : HandleId)
    {f : Handle → Handle} (hf : ∀ held, (f held).device = held.device) :
    Matched ρ id b₀ b c (.ok (a, fun b => b.modifyHandle (ρ k) f))
      (.ok (a, fun c => c.modifyHandle k f)) :=
  .done a fun m t => (h.counted m t).modifyHandle hρ k hf

end

/-! The operations. -/

section

variable (hρ : Function.Injective ρ) (k : HandleId) (number : UInt8)

theorem beside_enumerate : Simulates (Beside ρ id b₀) enumerate enumerate := by
  rw [enumerate_eq_serve]
  refine simulates_serve _ _ fun b c h => ?_
  have hlength : b.devices.length = c.devices.length := by
    have hspecs := congrArg List.length h.alike.specs
    rwa [List.length_map, List.length_map] at hspecs
  rw [hlength]
  exact matched_unchanged h _

include hρ

/-- Handles are opened for the device alone. -/
theorem beside_openDevice :
    Simulates (Beside ρ id b₀) (openDevice id) (ρ <$> openDevice id) := by
  have hserve : ρ <$> openDevice id = serve .openDevice none fun b => withDevice id (fun _ =>
      .ok (ρ ⟨b.nextHandle⟩, fun c => { c with
        nextHandle := b.nextHandle + 1
        handles := c.handles.insert ⟨b.nextHandle⟩
          { device := id, claimed := ∅, alternates := ∅ } })) b := by
    rw [openDevice_eq_serve]
    funext b
    simp only [Functor.map, EStateM.map, serve, withDevice]
    cases b.failures.get? .openDevice with
    | some kind => rfl
    | none => cases b.device? id <;> rfl
  rw [hserve, openDevice_eq_serve]
  refine simulates_serve _ _ fun b c h => matched_withDevice h rfl fun _ _ => ?_
  rw [show ρ ⟨c.nextHandle⟩ = ⟨b.nextHandle⟩ from h.alike.next 0]
  exact .done _ fun m t => (h.counted m t).insert hρ rfl

theorem beside_closeDevice :
    Simulates (Beside ρ id b₀) (closeDevice (ρ k)) (closeDevice k) := by
  rw [closeDevice_eq_serve, closeDevice_eq_serve]
  exact simulates_serve _ _ fun b c h => matched_withHandle h k fun _ _ =>
    .done _ fun m t => (h.counted m t).erase hρ k

theorem beside_setConfiguration (value : UInt8) :
    Simulates (Beside ρ id b₀) (setConfiguration (ρ k) value) (setConfiguration k value) := by
  rw [setConfiguration_eq_serve, setConfiguration_eq_serve]
  refine simulates_serve _ _ fun b c h => matched_withHandle h k fun held hd =>
    matched_withDevice h hd fun d _ => matched_ite (.refused _) (.done _ fun m t => ?_)
  rw [hd]
  exact ((h.counted m t).modifyDevice fun _ _ => by rfl).modifyHandle hρ k fun _ => by rfl

theorem beside_claimInterface :
    Simulates (Beside ρ id b₀) (claimInterface (ρ k) number) (claimInterface k number) := by
  rw [claimInterface_eq_serve, claimInterface_eq_serve]
  exact simulates_serve _ _ fun b c h => matched_withHandle h k fun _ _ =>
    matched_ite (.refused _) (matched_modifyHandle h hρ _ k fun _ => rfl)

theorem beside_releaseInterface :
    Simulates (Beside ρ id b₀) (releaseInterface (ρ k) number) (releaseInterface k number) := by
  rw [releaseInterface_eq_serve, releaseInterface_eq_serve]
  exact simulates_serve _ _ fun b c h => matched_withHandle h k fun _ _ =>
    matched_ite (.refused _) (matched_modifyHandle h hρ _ k fun _ => rfl)

theorem beside_setAlternate (alternate : UInt8) :
    Simulates (Beside ρ id b₀) (setAlternate (ρ k) number alternate)
      (setAlternate k number alternate) := by
  rw [setAlternate_eq_serve, setAlternate_eq_serve]
  exact simulates_serve _ _ fun b c h => matched_withHandle h k fun _ hd =>
    matched_ite (.refused _) (matched_withDevice h hd fun _ _ =>
      matched_ite (.refused _) (matched_modifyHandle h hρ _ k fun _ => rfl))

omit hρ

theorem beside_configuration :
    Simulates (Beside ρ id b₀) (configuration (ρ k)) (configuration k) := by
  rw [configuration_eq_serve, configuration_eq_serve]
  exact simulates_serve _ _ fun b c h => matched_withHandle h k fun _ hd =>
    matched_withDevice h hd fun _ _ => matched_ite (matched_unchanged h _) (.refused _)

theorem beside_dataTransfer (m : Method) (kind : TransferType) (endpoint : UInt8)
    (payload : Payload) (timeout : Nat) :
    Simulates (Beside ρ id b₀) (dataTransfer m kind (ρ k) endpoint number payload timeout)
      (dataTransfer m kind k endpoint number payload timeout) := by
  rw [dataTransfer_eq_serve, dataTransfer_eq_serve]
  refine simulates_serve _ _ fun b c h => matched_withHandle h k fun held hd =>
    matched_ite (.refused _) (matched_withDevice h hd fun d hstate => ?_)
  cases d.endpoint? number ((held.alternates.get? number).getD 0) endpoint with
  | none => exact .refused _
  | some e =>
    refine matched_ite (.refused _) (matched_ite (.refused _) ?_)
    cases hr : moveData d endpoint payload with
    | error e => exact .refused e
    | ok r =>
      refine matched_modifyDevice h r.1 hd fun d' hd' => ?_
      cases hstate.symm.trans hd'
      obtain ⟨pipes, hkept⟩ := pipes_of_moveData hr
      rw [hkept]

theorem beside_controlTransfer (setup : Setup) (payload : Payload) (timeout : Nat) :
    Simulates (Beside ρ id b₀) (controlTransfer (ρ k) setup payload timeout)
      (controlTransfer k setup payload timeout) := by
  rw [controlTransfer_eq_serve, controlTransfer_eq_serve]
  refine simulates_serve _ _ fun b c h => matched_withHandle h k fun held hd =>
    matched_withDevice h hd fun d hstate => ?_
  cases requestDirection setup.requestType with
  | toHost =>
    cases payload with
    | send data => exact .refused _
    | receive length =>
      dsimp only
      cases controlReply d held setup length with
      | error e => exact .refused e
      | ok data => exact matched_unchanged h (Transferred.read data)
  | toDevice =>
    cases payload with
    | receive length => exact .refused _
    | send data =>
      dsimp only
      cases hs : controlStore d setup data with
      | error e => exact .refused e
      | ok e =>
        refine matched_modifyDevice h _ hd fun d' hd' => ?_
        cases hstate.symm.trans hd'
        obtain ⟨buffer, halted, hkept⟩ := stored_of_controlStore hs
        rw [hkept]

theorem beside_resetDevice : Simulates (Beside ρ id b₀) (resetDevice (ρ k)) (resetDevice k) := by
  rw [resetDevice_eq_serve, resetDevice_eq_serve]
  exact simulates_serve _ _ fun b c h => matched_withHandle h k fun _ hd =>
    matched_modifyDevice h _ hd fun _ _ => rfl

theorem beside_kernelDriverActive :
    Simulates (Beside ρ id b₀) (kernelDriverActive (ρ k) number) (kernelDriverActive k number) := by
  rw [kernelDriverActive_eq_serve, kernelDriverActive_eq_serve]
  exact simulates_serve _ _ fun b c h => matched_withHandle h k fun _ hd =>
    matched_withDevice h hd fun _ _ => matched_unchanged h _

theorem beside_detachKernelDriver :
    Simulates (Beside ρ id b₀) (detachKernelDriver (ρ k) number) (detachKernelDriver k number) := by
  rw [detachKernelDriver_eq_serve, detachKernelDriver_eq_serve]
  exact simulates_serve _ _ fun b c h => matched_withHandle h k fun _ hd =>
    matched_withDevice h hd fun _ _ =>
      matched_ite (.refused _) (matched_modifyDevice h _ hd fun _ _ => rfl)

theorem beside_attachKernelDriver :
    Simulates (Beside ρ id b₀) (attachKernelDriver (ρ k) number) (attachKernelDriver k number) := by
  rw [attachKernelDriver_eq_serve, attachKernelDriver_eq_serve]
  exact simulates_serve _ _ fun b c h => matched_withHandle h k fun _ hd =>
    matched_withDevice h hd fun _ _ =>
      matched_ite (.refused _) (matched_modifyDevice h _ hd fun _ _ => rfl)

theorem beside_clearHalt (endpoint : UInt8) :
    Simulates (Beside ρ id b₀) (clearHalt (ρ k) endpoint) (clearHalt k endpoint) := by
  rw [clearHalt_eq_serve, clearHalt_eq_serve]
  exact simulates_serve _ _ fun b c h => matched_withHandle h k fun _ hd =>
    matched_modifyDevice h _ hd fun _ _ => rfl

end

/-- Each operation but the opening of handles is in step with itself. -/
theorem beside_act (hρ : Function.Injective ρ) (op : Operation α) (ho : op.opens = false) :
    Simulates (Beside ρ id b₀) ((op.renumbered ρ).act : Action Bus α) op.act := by
  cases op with
  | openDevice => cases ho
  | devices => exact beside_enumerate
  | deviceDescriptor i =>
    change Simulates _ (deviceDescriptor i) (deviceDescriptor i)
    rw [deviceDescriptor_eq_serve]
    exact simulates_serve _ _ fun b c h =>
      matched_reading h i fun spec => matched_unchanged h spec.descriptor
  | configurationDescriptor i config =>
    change Simulates _ (configurationDescriptor i config) (configurationDescriptor i config)
    rw [configurationDescriptor_eq_serve]
    exact simulates_serve _ _ fun b c h => matched_reading h i fun spec =>
      matched_bind_unchanged h (configurationOf spec config) Configuration.descriptor
  | interfaceDescriptor i interface alternate config =>
    change Simulates _ (interfaceDescriptor i interface alternate config)
      (interfaceDescriptor i interface alternate config)
    rw [interfaceDescriptor_eq_serve]
    exact simulates_serve _ _ fun b c h => matched_reading h i fun spec =>
      matched_bind_unchanged h (alternateOf spec interface alternate config) Alternate.descriptor
  | endpointDescriptor i endpoint interface alternate config =>
    change Simulates _ (endpointDescriptor i endpoint interface alternate config)
      (endpointDescriptor i endpoint interface alternate config)
    rw [endpointDescriptor_eq_serve]
    exact simulates_serve _ _ fun b c h => matched_reading h i fun spec =>
      matched_bind_unchanged h (endpointOf spec endpoint interface alternate config) fun e => e
  | closeDevice h => exact beside_closeDevice hρ h
  | setConfiguration h value => exact beside_setConfiguration hρ h value
  | configuration h => exact beside_configuration h
  | claimInterface h number => exact beside_claimInterface hρ h number
  | releaseInterface h number => exact beside_releaseInterface hρ h number
  | setAlternate h number alternate => exact beside_setAlternate hρ h number alternate
  | bulkTransfer h endpoint number payload timeout =>
    exact beside_dataTransfer h number _ _ endpoint payload timeout
  | interruptTransfer h endpoint number payload timeout =>
    exact beside_dataTransfer h number _ _ endpoint payload timeout
  | isochronousTransfer h endpoint number payload timeout =>
    exact beside_dataTransfer h number _ _ endpoint payload timeout
  | controlTransfer h setup payload timeout => exact beside_controlTransfer h setup payload timeout
  | resetDevice h => exact beside_resetDevice h
  | kernelDriverActive h number => exact beside_kernelDriverActive h number
  | detachKernelDriver h number => exact beside_detachKernelDriver h number
  | attachKernelDriver h number => exact beside_attachKernelDriver h number
  | clearHalt h endpoint => exact beside_clearHalt h endpoint

end SerialBus.Loopback.Bus
