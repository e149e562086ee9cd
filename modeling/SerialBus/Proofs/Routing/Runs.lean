import SerialBus.Proofs.Routing.Active

/-! Runs of one device on a loopback bus. The types that it remembers are the declared ones exactly
as long as each transfer through a view goes by a type that the active configuration declares. -/
namespace SerialBus

/-- The key under which the type of a viewed endpoint is remembered. -/
def EndpointView.key (e : EndpointView) : EndpointKey :=
  ⟨e.address, e.interface.descriptor.interfaceNumber, e.interface.descriptor.alternateSetting⟩

namespace Routing

open SerialBus.Action Device Session Custody
open Loopback (Bus)

/-- The endpoint that the use moves data on through a view. -/
def viewed? : Use → Option EndpointView
  | .onView (.write ..) (.endpoint e) | .onView (.read ..) (.endpoint e) => some e
  | _ => none

/-- A transfer through a view goes by the type that the active configuration declares. -/
def Agrees (a : Attachment Bus) (u : Use) : Prop := ∀ e, viewed? u = some e → ∀ r,
  outcome (route e.address (.resolved e.interface)) a = .ok r →
    Typing.declared.of a e.key = some r.2

section

variable {spec : Loopback.Device} {a : Attachment Bus}

theorem fst_of_route {endpoint : UInt8} {l : InterfaceLocation}
    {r : InterfaceLocation × TransferType} (ho : outcome (route endpoint (.resolved l)) a = .ok r) :
    r.1 = l := by
  unfold route at ho
  obtain ⟨k, hk, ho⟩ := outcome_bind_eq_ok.1 ho
  obtain ⟨kind, -, ho⟩ := outcome_bind_eq_ok.1 ho
  cases ho
  rw [findInterface_eq] at hk
  obtain ⟨p, -, hk⟩ := outcome_bind_eq_ok.1 hk
  cases hk
  rfl

theorem agrees_iff {u : Use} {e : EndpointView} (hu : viewed? u = some e) :
    Agrees a u ↔ ∀ r, outcome (route e.address (.resolved e.interface)) a = .ok r →
      Typing.declared.of a ⟨e.address, r.1.descriptor.interfaceNumber,
        r.1.descriptor.alternateSetting⟩ = some r.2 := by
  constructor
  · intro h r hr
    rw [fst_of_route hr]
    exact h e hu r hr
  · intro h e' he r hr
    cases hu.symm.trans he
    have hright := h r hr
    rw [fst_of_route hr] at hright
    exact hright

/-- A view of the active configuration goes by the declared type, as long as all is coherent. -/
theorem agrees_of_placed (ha : Attached spec a) (hc : Coherent .declared a)
    {c : Loopback.Configuration} (hcurrent : current? a = some c) {config : UInt8}
    (hindex : spec.configurations[config.toNat]? = some c) {u : Use} {e : EndpointView}
    (hu : viewed? u = some e) (he : Placed spec config e.interface) : Agrees a u := by
  intro e' he' r hr
  cases hu.symm.trans he'
  unfold route at hr
  obtain ⟨l, hl, hr⟩ := outcome_bind_eq_ok.1 hr
  obtain ⟨kind, hkind, hr⟩ := outcome_bind_eq_ok.1 hr
  cases hr
  obtain ⟨hs, hstill⟩ := still_findInterface (.resolved e.interface) a ha
  have hsame : l = e.interface := by
    have hroute : outcome (route e.address (.resolved e.interface)) a = .ok (l, kind) := by
      unfold route
      rw [outcome_bind_ok _ hl, outcome_bind_ok _ hkind]
      rfl
    exact fst_of_route hroute
  subst hsame
  rw [← hstill.typing]
  exact typing_of_endpointType hs (hstill.coherent_iff.2 hc)
    (hstill.current.trans hcurrent) hindex he hkind

/-- A use that moves data through a view leaves what its transfer leaves. -/
theorem after_viewed {u : Use} {e : EndpointView} (hu : viewed? u = some e) :
    ∃ payload timeout, ∀ a : Attachment Bus, after u.perform a =
      after (transfer e.address payload (.resolved e.interface) timeout) a := by
  obtain ⟨payload, timeout, ht⟩ : ∃ payload timeout,
      u.transfer? = some ⟨e.address, payload, .resolved e.interface, timeout⟩ := by
    cases u with
    | call c => cases hu
    | follow path => cases hu
    | onView c v => cases c <;> cases v <;> cases hu <;> exact ⟨_, _, rfl⟩
  exact ⟨payload, timeout, Use.after_transfer ht⟩

/-- All other uses keep the types right. -/
theorem coherence_use (hassembled : spec.Assembled) {u : Use} (hu : viewed? u = none) :
    Keeps (coherence .declared spec) (u.perform : DeviceAction Bus Unit) := by
  by_cases hview : u.isViewTransfer
  · -- The view has no endpoint, so nothing is done at all.
    cases u with
    | call c => cases hview
    | follow path => cases hview
    | onView c v =>
      cases c with
      | write | read =>
        cases v with
        | endpoint e => cases hu
        | _ => exact keeps_pure ()
      | _ => cases hview
  · exact keeps_of_simulates fun a => simulates_use_of_whole (whole_coherence a)
      (fun _ _ _ _ => (coherence_transfer hassembled _ _ _ _).simulates a) u
      (fun h => absurd h hview) (fun _ => coherence_reset.simulates a) fun setup data timeout _ =>
        (keeps_controlTransfer (still_openHandle.mono coherence_of_still) (fun d h payload ms =>
          coherence_act d (.controlTransfer h setup payload ms) rfl) data timeout).simulates a

/-- One use leaves the types right exactly if it agrees with them. -/
theorem coherent_use_iff (hassembled : spec.Assembled) (ha : Attached spec a)
    (hc : Coherent .declared a) (u : Use) :
    Coherent .declared (after u.perform a) ↔ Agrees a u := by
  cases hu : viewed? u with
  | none =>
    have hkept := (coherence_use hassembled hu a ha).2 hc
    refine ⟨fun _ e he => ?_, fun _ => hkept⟩
    cases hu.symm.trans he
  | some e =>
    obtain ⟨payload, timeout, hafter⟩ := after_viewed hu
    rw [hafter, agrees_iff hu]
    exact coherent_transfer_iff ha hc e.address payload _ timeout

/-- The types are right throughout a run exactly if each use in it agrees with them. -/
theorem coherent_run_iff (hassembled : spec.Assembled) (ha : Attached spec a)
    (hc : Coherent .declared a) (moves : List Move) :
    (∀ before, before <+: moves → Coherent .declared (run a before)) ↔
      ∀ before u, before ++ [.use u] <+: moves → Agrees (run a before) u := by
  induction moves generalizing a with
  | nil =>
    constructor
    · intro _ before u hu
      cases before <;> cases List.prefix_nil.1 hu
    · intro _ before hbefore
      rw [List.prefix_nil.1 hbefore]
      exact hc
  | cons m rest ih =>
    have hstep : Attached spec (m.step a) := attached_step ha m
    have hfirst : Coherent .declared (m.step a) ↔ ∀ u, m = .use u → Agrees a u := by
      cases m with
      | use u =>
        refine (coherent_use_iff hassembled ha hc u).trans ⟨fun h v hv => ?_, fun h => h u rfl⟩
        cases hv
        exact h
      | hook k => exact ⟨fun _ _ => nofun, fun _ => (still_hook k a ha).2.coherent_iff.2 hc⟩
    constructor
    · intro h before u hu
      have hnext : Coherent .declared (m.step a) := h [m] (List.prefix_append [m] rest)
      cases before with
      | nil =>
        obtain ⟨heq, -⟩ := List.cons_prefix_cons.1 hu
        exact hfirst.1 hnext u heq.symm
      | cons first before =>
        obtain ⟨rfl, htail⟩ := List.cons_prefix_cons.1 hu
        refine (ih hstep hnext).1 (fun early hearly => ?_) before u htail
        exact h (first :: early) (List.cons_prefix_cons.2 ⟨rfl, hearly⟩)
    · intro h before hbefore
      cases before with
      | nil => exact hc
      | cons first before =>
        obtain ⟨rfl, htail⟩ := List.cons_prefix_cons.1 hbefore
        have hnext : Coherent .declared (first.step a) := hfirst.2 fun u hu => by
          subst hu
          exact h [] u (List.prefix_append [Move.use u] rest)
        refine (ih hstep hnext).2 (fun early u hearly => ?_) before htail
        exact h (first :: early) u (List.cons_prefix_cons.2 ⟨rfl, hearly⟩)

end

/-- The remembered types are the declared ones throughout a run exactly if each transfer through a
view goes by the type that the active configuration declares for its key. As long as they are, the
transfers on interfaces named by number or by default go by declared types, and so do those through
views of the active configuration. -/
theorem types_declared_iff_agrees {specs : List Loopback.Device} {id : DeviceId}
    {spec : Loopback.Device} (hspec : specs[id.number]? = some spec) (hassembled : spec.Assembled)
    (descriptor : DeviceDescriptor) (moves : List Move) :
    let start := atStart specs id descriptor
    ((∀ before, before <+: moves → Coherent .declared (run start before)) ↔
      ∀ before u, before ++ [.use u] <+: moves → Agrees (run start before) u) ∧
    (Coherent .declared (run start moves) → ∀ endpoint interface l kind,
      outcome (route endpoint (.ofNumber? interface)) (run start moves) = .ok (l, kind) →
        Typing.declared.of (run start moves) ⟨endpoint, l.descriptor.interfaceNumber,
          l.descriptor.alternateSetting⟩ = some kind) ∧
    (Coherent .declared (run start moves) → ∀ u e config c, viewed? u = some e →
      spec.configurations[config.toNat]? = some c → current? (run start moves) = some c →
        Placed spec config e.interface → Agrees (run start moves) u) := by
  intro start
  have hstart : Attached spec start := attached_atStart hspec descriptor
  have hcoherent : Coherent .declared start := fun key kind hk => by cases hk
  have hend : Attached spec (run start moves) := attached_run hstart moves
  refine ⟨coherent_run_iff hassembled hstart hcoherent moves, ?_, ?_⟩
  · intro hc endpoint interface l kind ho
    exact typing_of_route hassembled hend hc ho
  · intro hc u e config c hu hindex hcurrent he
    exact agrees_of_placed hend hc hcurrent hindex hu he

/-- A device with one endpoint that is a bulk endpoint in the first configuration, which is the
active one, and an interrupt endpoint in the second. -/
def twoTypes : Loopback.Device :=
  ((Loopback.Device.ofDescriptor {}).addConfiguration
    ((Loopback.Configuration.ofDescriptor { configurationValue := 1 }).addInterface {}
      [{ endpointAddress := 0x01 }])).addConfiguration
        ((Loopback.Configuration.ofDescriptor { configurationValue := 2 }).addInterface {}
          [{ endpointAddress := 0x01, attributes := 3 }])

theorem assembled_twoTypes : twoTypes.Assembled := by
  have hbulk := Loopback.Configuration.Assembled.add (.empty { configurationValue := 1 }) {}
    [{ endpointAddress := 0x01 }]
  have hinterrupt := Loopback.Configuration.Assembled.add (.empty { configurationValue := 2 }) {}
    [{ endpointAddress := 0x01, attributes := 3 }]
  exact .add (.add (.empty {}) hbulk) hinterrupt

/-- The view of the endpoint in the configuration with the index, as it is read from the device. -/
def viewIn (config : UInt8) : EndpointView :=
  (outcome (configurationView config >>= fun c => c.interface 0 0 >>= fun i => i.endpoint 0)
    (atStart [twoTypes] ⟨0⟩ twoTypes.descriptor)).toOption.getD default

/-- Two bytes are written to the endpoint through its view in a configuration. -/
def writeIn (config : UInt8) : Use := .onView (.write [1, 2] none) (.endpoint (viewIn config))

theorem types_declared_iff_agrees_twoTypes :
    let start := atStart [twoTypes] ⟨0⟩ twoTypes.descriptor
    (∀ before, before <+: [.use (writeIn 0)] → Coherent .declared (run start before)) ∧
      ¬ ∀ before, before <+: [.use (writeIn 1)] → Coherent .declared (run start before) := by
  intro start
  have hspec : [twoTypes][(⟨0⟩ : DeviceId).number]? = some twoTypes := rfl
  constructor
  · obtain ⟨hiff, -, -⟩ := types_declared_iff_agrees hspec assembled_twoTypes twoTypes.descriptor
      [.use (writeIn 0)]
    refine hiff.2 fun before u hu => ?_
    cases before with
    | cons first rest =>
      obtain ⟨-, hrest⟩ := List.cons_prefix_cons.1 hu
      cases rest <;> cases List.prefix_nil.1 hrest
    | nil =>
      obtain ⟨heq, -⟩ := List.cons_prefix_cons.1 hu
      cases heq
      intro e he r hr
      cases he
      have hbulk : (outcome (route (viewIn 0).address (.resolved (viewIn 0).interface))
          start).map Prod.snd = .ok .bulk := by decide +kernel
      have hdeclared : Typing.declared.of start (viewIn 0).key = some .bulk := by decide +kernel
      change outcome _ start = _ at hr
      rw [hr] at hbulk
      exact hdeclared.trans (congrArg some (Except.ok.inj hbulk).symm)
  · obtain ⟨hiff, -, -⟩ := types_declared_iff_agrees hspec assembled_twoTypes twoTypes.descriptor
      [.use (writeIn 1)]
    intro hall
    have hinterrupt : outcome (route (viewIn 1).address (.resolved (viewIn 1).interface)) start =
        .ok ((viewIn 1).interface, .interrupt) := by decide +kernel
    have hagrees := hiff.1 hall [] (writeIn 1) (List.prefix_refl _) (viewIn 1) rfl _ hinterrupt
    have hdeclared : Typing.declared.of start (viewIn 1).key = some .bulk := by decide +kernel
    cases hdeclared.symm.trans hagrees

/-- Nothing is made to fail, the configuration is the first one as before, and yet a transfer that
works at the start does not after one through a view of the other configuration. -/
theorem interrupt_remembered_for_bulk :
    let start := atStart [twoTypes] ⟨0⟩ twoTypes.descriptor
    let a := run start [.use (writeIn 1)]
    outcome (configurationView 1 >>= fun c => c.interface 0 0 >>= fun i => i.endpoint 0) start =
        .ok (viewIn 1) ∧
      a.bus.failures = ∅ ∧ a.device.held.endpointTypes.get? (viewIn 1).key = some .interrupt ∧
      Typing.declared.of a (viewIn 1).key = some .bulk ∧
      outcome (write 0x01 [1, 2] none none) start = .ok 2 ∧
      outcome (write 0x01 [1, 2] none none) a = .error Loopback.invalidParam := by
  intro start a
  exact ⟨by decide +kernel, by decide +kernel, by decide +kernel, by decide +kernel,
    by decide +kernel, by decide +kernel⟩

end Routing

end SerialBus
