import SerialBus.Proofs.Custody
import SerialBus.Proofs.Device.Elementary

/-! What a transfer asks of its bus: the primitive that moves the data comes last, and by then the
handle is open and the interface is claimed on it. -/
namespace SerialBus.Custody

open SerialBus.Action Device Session
open Loopback (Bus)

variable {σ α : Type}

/-- Only calls with the property are sent. -/
def logs (p : BackendCall → Prop) : Evolution (Attachment (Watched σ)) where
  rel a e := ∃ sent, e.bus.log = a.bus.log ++ sent ∧ ∀ s ∈ sent, p s.call
  refl a := ⟨[], (List.append_nil _).symm, fun s hs => by cases hs⟩
  trans h g := by
    obtain ⟨sent, hs, hp⟩ := h
    obtain ⟨more, hm, hq⟩ := g
    refine ⟨sent ++ more, by rw [hm, hs, List.append_assoc], fun s h => ?_⟩
    rcases List.mem_append.1 h with h | h
    · exact hp s h
    · exact hq s h

variable [Backend σ]

theorem keeps_logs {p : BackendCall → Prop} (d : Device) (op : Operation α) (hp : p op.call) :
    Keeps ((logs p).onBus d) (op.act : Action (Watched σ) α) := by
  intro w
  rw [Watched.act_eq_watch, Watched.after_watch]
  refine ⟨[⟨op.call, w.inner⟩], rfl, fun s hs => ?_⟩
  cases List.mem_singleton.1 hs
  exact hp

omit [Backend σ] in
theorem keeps_logs_modify (p : BackendCall → Prop) (f : Device → Device) :
    Keeps (logs p) (modifyDevice f : DeviceAction (Watched σ) Unit) := fun _ =>
  ⟨[], (List.append_nil _).symm, fun s hs => by cases hs⟩

omit [Backend σ] in
theorem dataTransfer?_eq_none {op : Operation α} (h : op.movesData = false) :
    op.call.dataTransfer? = none := by
  cases op <;> first | rfl | cases h

/-- What moves no data in one step moves none in many. -/
theorem elementary_logs (a : Attachment (Watched σ)) :
    Elementary .same ((logs fun c => c.dataTransfer? = none).from a) where
  name := rfl
  device := device_of_from
  openDevice d := (simulates_map_iff fun _ => rfl).2
    ((keeps_logs d (.openDevice d.id) (dataTransfer?_eq_none rfl)).simulates_on a)
  bus := fun d {_} op h _ _ => (keeps_logs d op (dataTransfer?_eq_none h)).simulates_on a
  claim d h number :=
    (keeps_logs d (.claimInterface h number) (dataTransfer?_eq_none rfl)).simulates_on a
  modify f g hfg _ := by
    rw [Device.eq_of_same hfg]
    exact (keeps_logs_modify _ g).simulates a

theorem keeps_logs_prepare (endpoint : UInt8) (target : InterfaceTarget) (timeout : Option Nat) :
    Keeps (logs fun c => c.dataTransfer? = none)
      (prepare endpoint target timeout : DeviceAction (Watched σ) _) :=
  keeps_of_simulates fun a => (elementary_logs a).inStep.prepare endpoint target timeout

theorem keeps_prepare {view : σ → Bus} (m : Mirror view) (endpoint : UInt8)
    (target : InterfaceTarget) (timeout : Option Nat) :
    Keeps (custody view) (prepare endpoint target timeout : DeviceAction σ _) :=
  keeps_of_simulates fun a => ((parts_custody m).inStep a).prepare endpoint target timeout

/-- The primitive of a transfer is one call, with the handle and the number that it was given. -/
theorem log_dataTransfer (kind : TransferType) (h : HandleId) (endpoint number : UInt8)
    (payload : Payload) (timeout : Nat) (a : Attachment (Watched σ)) :
    (after (dataTransfer kind h endpoint number payload timeout) a).device = a.device ∧
      ∃ sent, (after (dataTransfer kind h endpoint number payload timeout) a).bus.log =
          a.bus.log ++ sent ∧
        ∀ s ∈ sent, s.met = a.bus.inner ∧
          s.call.dataTransfer? = some ⟨h, endpoint, number, payload⟩ := by
  have hone : ∀ call : BackendCall, call.dataTransfer? = some ⟨h, endpoint, number, payload⟩ →
      ∀ s ∈ [(⟨call, a.bus.inner⟩ : Sent σ)], s.met = a.bus.inner ∧
        s.call.dataTransfer? = some ⟨h, endpoint, number, payload⟩ := by
    intro call hcall s hs
    cases List.mem_singleton.1 hs
    exact ⟨rfl, hcall⟩
  cases kind with
  | control => exact ⟨rfl, [], (List.append_nil _).symm, fun s hs => by cases hs⟩
  | bulk =>
    rw [dataTransfer, after_onBus]
    exact ⟨rfl, _, congrArg Watched.log (Watched.after_watch _ _ _), hone _ rfl⟩
  | interrupt =>
    rw [dataTransfer, after_onBus]
    exact ⟨rfl, _, congrArg Watched.log (Watched.after_watch _ _ _), hone _ rfl⟩
  | isochronous =>
    rw [dataTransfer, after_onBus]
    exact ⟨rfl, _, congrArg Watched.log (Watched.after_watch _ _ _), hone _ rfl⟩

/-- Each primitive that a transfer issues names the handle of the device, which is open for it, and
an interface that is claimed on this handle. -/
theorem transfer_on_claimed {a : Attachment (Watched Bus)} (ha : Allocated a.bus.inner)
    (ho : Owned a.device a.bus.inner) (hlog : a.bus.log = []) (endpoint : UInt8)
    (payload : Payload) (target : InterfaceTarget) (timeout : Option Nat) {s : Sent Bus}
    (hs : s ∈ (after (transfer endpoint payload target timeout) a).bus.log) {t : DataTransfer}
    (ht : s.call.dataTransfer? = some t) :
    (after (transfer endpoint payload target timeout) a).device.held.handle = some t.handle ∧
      ∃ claimed, s.met.owner t.handle = some (a.device.id, claimed) ∧
        claimed.contains t.number = true := by
  rw [transfer_eq] at hs ⊢
  obtain ⟨before, hbefore, hquiet⟩ := keeps_logs_prepare endpoint target timeout a
  rw [hlog, List.nil_append] at hbefore
  rw [after_bind] at hs ⊢
  cases hp : outcome (prepare endpoint target timeout) a with
  | error e =>
    simp only [hp] at hs
    rw [hbefore] at hs
    rw [hquiet s hs] at ht
    cases ht
  | ok r =>
    obtain ⟨kind, h, number, ms⟩ := r
    simp only [hp] at hs ⊢
    obtain ⟨hh, hn⟩ := held_after_prepare hp
    obtain ⟨-, hown, hframe⟩ := keeps_prepare Watched.mirror_inner endpoint target timeout a ha ho
    obtain ⟨claimed, hc, hsub⟩ := hown.opened h hh
    obtain ⟨hdevice, sent, hsent, hall⟩ := log_dataTransfer kind h endpoint number payload ms
      (after (prepare endpoint target timeout) a)
    rw [hsent, hbefore] at hs
    rcases List.mem_append.1 hs with hs | hs
    · rw [hquiet s hs] at ht
      cases ht
    · obtain ⟨hmet, hcall⟩ := hall s hs
      cases hcall.symm.trans ht
      rw [hdevice, hmet]
      exact ⟨hh, claimed, by rw [hc, hframe.id], hsub number hn⟩

end SerialBus.Custody
