import SerialBus.Proofs.Claims.Once
import SerialBus.Proofs.Device.Requests

/-! The alternate that a device has recorded for an interface, and the one that the bus has for it.
They are the same until the interface is given back, which makes the bus alone forget it. -/
namespace SerialBus.Alternates

open SerialBus.Action Device Session Custody
open Loopback (Bus)

/-- Whether the interface stands given back after a call: a release that works gives it back, and a
selection that works takes it up again. -/
def giveBack (n : UInt8) (given : Bool) (s : Sent Bus) : Bool :=
  match s.call with
  | .releaseInterface h m =>
    if m = n ∧ (outcome (Bus.releaseInterface h m) s.met).isOk then true else given
  | .setAlternate h m alternate =>
    if m = n ∧ (outcome (Bus.setAlternate h m alternate) s.met).isOk then false else given
  | _ => given

/-- Whether the interface was given back after the last time that an alternate was selected. -/
def GivenBack (n : UInt8) (calls : List (Sent Bus)) : Bool := calls.foldl (giveBack n) false

/-- The calls that a run sends to the bus. -/
def calls (a : Attachment Bus) : List Move → List (Sent Bus)
  | [] => []
  | .use u :: rest => u.calls a ++ calls (Move.step a (.use u)) rest
  | .hook h :: rest => calls (Move.step a (.hook h)) rest

/-- What is recorded is what the bus has on the handle, unless the interface stands given back. -/
structure Recorded (given : UInt8 → Bool) (d : Device) (b : Bus) : Prop where
  closed : d.held.handle = none → d.held.alternates = ∅
  opened : ∀ h n alternate, d.held.handle = some h → d.held.alternates.get? n = some alternate →
    ∃ held state, b.handles.get? h = some held ∧ b.device? held.device = some state ∧
      held.alternates.get? n = if given n then none else some alternate

section

variable {given : UInt8 → Bool} {d e : Device} {b c : Bus}

theorem recorded_of_empty (h : d.held.alternates = ∅) : Recorded given d b := by
  refine ⟨fun _ => h, fun i n alternate _ hn => ?_⟩
  rw [h] at hn
  cases hn

/-- A step that leaves the alternates on both sides. -/
theorem Recorded.mono (hr : Recorded given d b) (hh : e.held.handle = d.held.handle)
    (ha : e.held.alternates = d.held.alternates) (hp : Loopback.Bus.SameProfiles b c)
    (hs : ∀ h held, b.handles.get? h = some held → ∃ other, c.handles.get? h = some other ∧
      other.device = held.device ∧ other.alternates = held.alternates) : Recorded given e c := by
  constructor
  · rw [hh, ha]
    exact hr.closed
  · rw [hh, ha]
    intro h n alternate hopen hn
    obtain ⟨held, state, hget, hstate, hbus⟩ := hr.opened h n alternate hopen hn
    obtain ⟨other, hother, hdevice, halternates⟩ := hs h held hget
    have hsome := hp held.device
    rw [hstate] at hsome
    obtain ⟨state', hstate', -⟩ := Option.map_eq_some_iff.1 hsome
    refine ⟨other, state', hother, ?_, ?_⟩
    · rw [hdevice]
      exact hstate'
    · rw [halternates]
      exact hbus

theorem Recorded.routine (hr : Recorded given d b) (hh : e.held.handle = d.held.handle)
    (ha : e.held.alternates = d.held.alternates) (hc : Loopback.Bus.Routine b c) :
    Recorded given e c :=
  hr.mono hh ha hc.profiles fun h held hget => ⟨held, by rw [hc.handles, hget], rfl, rfl⟩

end

/-- What is recorded goes along with the calls that are sent. -/
def recording : Evolution (Attachment (Watched Bus)) where
  rel a e := ∃ sent, e.bus.log = a.bus.log ++ sent ∧
    ∀ given, Recorded given a.device a.bus.inner →
      Recorded (fun n => sent.foldl (giveBack n) (given n)) e.device e.bus.inner
  refl a := ⟨[], (List.append_nil _).symm, fun _ h => h⟩
  trans h g := by
    obtain ⟨sent, hs, hr⟩ := h
    obtain ⟨more, hm, hq⟩ := g
    refine ⟨sent ++ more, by rw [hm, hs, List.append_assoc], fun given ha => ?_⟩
    simp only [List.foldl_append]
    exact hq _ (hr given ha)

section

variable {α : Type} {a : Attachment (Watched Bus)}

/-- Other calls than releases and selections neither give back nor take up. -/
theorem giveBack_of_unconcerned {call : BackendCall} (hr : ∀ h n, call ≠ .releaseInterface h n)
    (hs : ∀ h n alternate, call ≠ .setAlternate h n alternate) (n : UInt8) (given : Bool)
    (b : Bus) : giveBack n given ⟨call, b⟩ = given := by
  cases call with
  | releaseInterface h m => exact absurd rfl (hr h m)
  | setAlternate h m alternate => exact absurd rfl (hs h m alternate)
  | _ => rfl

/-- One call that neither gives back nor takes up. -/
theorem recording_of_one {e : Attachment (Watched Bus)} {call : BackendCall}
    (hlog : e.bus.log = a.bus.log ++ [⟨call, a.bus.inner⟩])
    (hr : ∀ h n, call ≠ .releaseInterface h n)
    (hs : ∀ h n alternate, call ≠ .setAlternate h n alternate)
    (hrec : ∀ given, Recorded given a.device a.bus.inner → Recorded given e.device e.bus.inner) :
    recording.rel a e := by
  refine ⟨_, hlog, fun given ha => ?_⟩
  simp only [List.foldl_cons, List.foldl_nil, giveBack_of_unconcerned hr hs]
  exact hrec given ha

theorem recording_routine (d : Device) (op : Operation α) (hq : op.changesHandles = false) :
    Keeps (recording.onBus d) (op.act : Action (Watched Bus) α) := by
  intro w
  rw [Watched.act_eq_watch, Watched.after_watch]
  have hroutine := Loopback.Bus.routine_act op hq w.inner
  apply recording_of_one rfl
  · intro h n hcall
    cases op with
    | openDevice | closeDevice | claimInterface | releaseInterface | setConfiguration
    | setAlternate => cases hq
    | _ => cases hcall
  · intro h n alternate hcall
    cases op with
    | openDevice | closeDevice | claimInterface | releaseInterface | setConfiguration
    | setAlternate => cases hq
    | _ => cases hcall
  · intro given ha
    exact ha.routine rfl rfl hroutine

theorem recording_claimInterface (d : Device) (h : HandleId) (number : UInt8) :
    Keeps (recording.onBus d) (Backend.claimInterface h number : Action (Watched Bus) Unit) := by
  intro w
  have hstate : after (Backend.claimInterface h number : Action (Watched Bus) Unit) w =
      ⟨after (Bus.claimInterface h number) w.inner,
        w.log ++ [⟨.claimInterface h number, w.inner⟩]⟩ := Watched.after_watch _ _ _
  rw [hstate]
  refine recording_of_one rfl nofun nofun fun given ha => ?_
  rcases Loopback.Bus.claimInterface_cases w.inner h number with ⟨e, -, hc⟩ | ⟨held, hget, -, -, hs⟩
  · exact ha.routine rfl rfl (Loopback.Bus.routine_of_core_eq hc)
  · rw [hs]
    refine ha.mono rfl rfl (Loopback.Bus.sameProfiles_of_devices rfl) fun i other hother => ?_
    by_cases hi : h = i
    · subst hi
      refine ⟨_, (Table.get?_modify_self).trans (congrArg _ hother), rfl, rfl⟩
    · exact ⟨other, (Table.get?_modify_of_ne hi).trans hother, rfl, rfl⟩

/-- A change of the device that keeps its handle and its alternates. -/
theorem recording_modify {f : Device → Device}
    (hf : ∀ d, (f d).held.handle = d.held.handle ∧ (f d).held.alternates = d.held.alternates) :
    Keeps recording (modifyDevice f : DeviceAction (Watched Bus) Unit) := fun a =>
  ⟨[], (List.append_nil _).symm, fun _ ha => ha.routine (hf a.device).1 (hf a.device).2
    (Loopback.Bus.routine_of_core_eq rfl)⟩

theorem recording_hold {f : Holdings → Holdings}
    (hf : ∀ held, (f held).handle = held.handle ∧ (f held).alternates = held.alternates) :
    Keeps recording (modifyHeld f : DeviceAction (Watched Bus) Unit) :=
  recording_modify fun d => hf d.held

/-- A device without a handle has recorded nothing, so a new handle agrees with it. -/
theorem recording_openHandle :
    Keeps recording (openHandle : DeviceAction (Watched Bus) HandleId) := by
  apply keeps_opening
  intro a hh
  have hlog : (after (Backend.openDevice a.device.id : Action (Watched Bus) HandleId) a.bus).log =
      a.bus.log ++ [⟨.openDevice a.device.id, a.bus.inner⟩] :=
    congrArg Watched.log (Watched.after_watch _ _ _)
  rw [after_openHandle_of_none hh]
  cases outcome (Backend.openDevice a.device.id : Action (Watched Bus) HandleId) a.bus with
  | ok h =>
    exact recording_of_one hlog nofun nofun fun given ha => recorded_of_empty (ha.closed hh)
  | error e =>
    exact recording_of_one hlog nofun nofun fun given ha => recorded_of_empty (ha.closed hh)

theorem recording_acquire (number : UInt8) (level : Nat → Nat) :
    Keeps recording (acquire number level : DeviceAction (Watched Bus) Unit) :=
  keeps_acquisition recording_openHandle (fun d h => recording_claimInterface d h number)
    (fun _ => recording_hold fun _ => ⟨rfl, rfl⟩) level

/-- An interface that is given back is forgotten by the bus. -/
theorem recording_releaseInterface (d : Device) {h : HandleId} (hh : d.held.handle = some h)
    (number : UInt8) :
    Keeps (recording.onBus d) (Backend.releaseInterface h number : Action (Watched Bus) Unit) := by
  intro w
  have hstate : after (Backend.releaseInterface h number : Action (Watched Bus) Unit) w =
      ⟨after (Bus.releaseInterface h number) w.inner,
        w.log ++ [⟨.releaseInterface h number, w.inner⟩]⟩ := Watched.after_watch _ _ _
  rw [hstate]
  refine ⟨_, rfl, fun given ha => ?_⟩
  simp only [List.foldl_cons, List.foldl_nil, giveBack]
  rcases Loopback.Bus.releaseInterface_cases w.inner h number with
    ⟨e, ho, hc⟩ | ⟨held, hget, -, ho, hs⟩
  · have hfailed : (outcome (Bus.releaseInterface h number) w.inner).isOk = false := by
      rw [ho]
      rfl
    simp only [hfailed, Bool.false_eq_true, and_false, if_false]
    exact ha.routine rfl rfl (Loopback.Bus.routine_of_core_eq hc)
  · have hworked : (outcome (Bus.releaseInterface h number) w.inner).isOk = true := by
      rw [ho]
      rfl
    simp only [hworked, and_true]
    rw [hs]
    refine ⟨ha.closed, fun i n alternate hi hn => ?_⟩
    cases hh.symm.trans hi
    obtain ⟨held', state, hget', hstate', hbus⟩ := ha.opened h n alternate hi hn
    cases hget.symm.trans hget'
    refine ⟨_, state, (Table.get?_modify_self).trans (congrArg _ hget), hstate', ?_⟩
    by_cases hnumber : number = n
    · subst hnumber
      simp only [if_true]
      exact Table.get?_erase_self
    · simp only [if_neg hnumber]
      exact (Table.get?_erase_of_ne hnumber).trans hbus

theorem recording_release (number : UInt8) :
    Keeps recording (release (.number number) : DeviceAction (Watched Bus) Unit) :=
  keeps_giveBack recording_openHandle (fun d _ n hh => recording_releaseInterface d hh n)
    (fun _ => recording_hold fun _ => ⟨rfl, rfl⟩) number

/-- A disposal forgets all alternates. -/
theorem recording_dispose (close : Bool) :
    Keeps recording (dispose close : DeviceAction (Watched Bus) Unit) := by
  intro a
  obtain ⟨sent, hs, -⟩ : (logs NoClaim).rel a (after (dispose close) a) :=
    keeps_of_simulates (fun a => (unclaiming_logs a).dispose close) a
  obtain ⟨released, hr⟩ := outcome_releaseAll a
  obtain ⟨closed, hc⟩ := outcome_closeIf close (after releaseAll a)
  refine ⟨sent, hs, fun given _ => recorded_of_empty ?_⟩
  rw [(dispose_apply hr hc).2]
  rfl

theorem recording_reset : Keeps recording (reset : DeviceAction (Watched Bus) Unit) :=
  recording_openHandle.bind fun h => (recording_dispose false).bind fun _ =>
    (Keeps.onBus fun d => recording_routine d (.resetDevice h) rfl).bind fun _ =>
      recording_dispose true

/-- A new configuration makes both sides forget all alternates. -/
theorem recording_configure (h : HandleId) (index : Option UInt8) (value : UInt8) :
    Keeps recording (configure h index value : DeviceAction (Watched Bus) Unit) := by
  intro a
  have hstate : after (Backend.setConfiguration h value : Action (Watched Bus) Unit) a.bus =
      ⟨after (Bus.setConfiguration h value) a.bus.inner,
        a.bus.log ++ [⟨.setConfiguration h value, a.bus.inner⟩]⟩ := Watched.after_watch _ _ _
  have hout : outcome (Backend.setConfiguration h value : Action (Watched Bus) Unit) a.bus =
      outcome (Bus.setConfiguration h value) a.bus.inner := Watched.outcome_watch _ _ _
  unfold configure
  rw [after_bind, outcome_onBus, after_onBus, hstate, hout]
  rcases Loopback.Bus.setConfiguration_cases h value a.bus.inner with
    ⟨e, ho, hc⟩ | ⟨held, state, -, -, -, ho, -⟩
  · rw [ho]
    exact recording_of_one rfl nofun nofun fun given ha =>
      ha.routine rfl rfl (Loopback.Bus.routine_of_core_eq hc)
  · rw [ho]
    exact recording_of_one rfl nofun nofun fun given _ => recorded_of_empty rfl

/-- An alternate that is selected is recorded on both sides. -/
theorem recording_select {a : Attachment (Watched Bus)} {h : HandleId}
    (hh : a.device.held.handle = some h) (number alternate : UInt8) :
    recording.rel a (after (onBus (Backend.setAlternate h number alternate) >>= fun _ =>
      modifyHeld fun held => { held with
        alternates := held.alternates.insert number alternate }) a) := by
  have hstate : after (Backend.setAlternate h number alternate : Action (Watched Bus) Unit) a.bus =
      ⟨after (Bus.setAlternate h number alternate) a.bus.inner,
        a.bus.log ++ [⟨.setAlternate h number alternate, a.bus.inner⟩]⟩ := Watched.after_watch _ _ _
  have hout : outcome (Backend.setAlternate h number alternate : Action (Watched Bus) Unit) a.bus =
      outcome (Bus.setAlternate h number alternate) a.bus.inner := Watched.outcome_watch _ _ _
  rw [after_bind, outcome_onBus, after_onBus, hstate, hout]
  rcases Loopback.Bus.setAlternate_cases h number alternate a.bus.inner with
    ⟨e, ho, hc⟩ | ⟨held, state, hget, hdevice, ho, hs⟩
  · have hfailed : (outcome (Bus.setAlternate h number alternate) a.bus.inner).isOk = false := by
      rw [ho]
      rfl
    rw [ho]
    refine ⟨_, rfl, fun given ha => ?_⟩
    simp only [List.foldl_cons, List.foldl_nil, giveBack, hfailed, Bool.false_eq_true, and_false,
      if_false]
    exact ha.routine rfl rfl (Loopback.Bus.routine_of_core_eq hc)
  · have hworked : (outcome (Bus.setAlternate h number alternate) a.bus.inner).isOk = true := by
      rw [ho]
      rfl
    rw [ho]
    refine ⟨_, rfl, fun given ha => ?_⟩
    simp only [List.foldl_cons, List.foldl_nil, giveBack, hworked, and_true, after_modifyHeld]
    rw [hs]
    refine ⟨fun hnone => ?_, fun i n current hi hn => ?_⟩
    · cases hh.symm.trans hnone
    · cases hh.symm.trans hi
      refine ⟨_, state, (Table.get?_modify_self).trans (congrArg _ hget), hdevice, ?_⟩
      by_cases hnumber : number = n
      · subst hnumber
        simp only [if_true, Bool.false_eq_true, if_false]
        have hsame : some alternate = some current := Table.get?_insert_self.symm.trans hn
        rw [← hsame]
        exact Table.get?_insert_self
      · simp only [if_neg hnumber]
        have hrecorded : a.device.held.alternates.get? n = some current :=
          (Table.get?_insert_of_ne hnumber).symm.trans hn
        obtain ⟨held', -, hget', -, hbus⟩ := ha.opened h n current hh hrecorded
        cases hget.symm.trans hget'
        exact (Table.get?_insert_of_ne hnumber).trans hbus

theorem recording_selectAlternate (number alternate : UInt8) :
    Keeps recording (selectAlternate number alternate : DeviceAction (Watched Bus) Unit) := by
  refine Keeps.bind (recording_acquire number (max · 1)) fun _ => ?_
  exact recording_openHandle.bindFrom fun a h ho =>
    recording_select (handle_after_openHandle ho) number alternate

theorem plain_recording (a : Attachment (Watched Bus)) : Plain .same (recording.from a) := by
  refine plain_of_keeps (fun d {_} op hq hs _ => ?_) a
  have hchanges : op.changesHandles = false := by
    rw [Operation.changesHandles, (Operation.isQuiet_iff.1 hq).1, hs]
    rfl
  exact recording_routine d op hchanges

theorem whole_recording (a : Attachment (Watched Bus)) : Whole .same (recording.from a) where
  toPlain := plain_recording a
  setTimeout n := Keeps.simulates (recording_modify fun _ => ⟨rfl, rfl⟩ : Keeps recording
    (modifyDevice ({ · with defaultTimeout := n }))) a
  openHandle := recording_openHandle.simulates_opening a
  acquire number level _ := (recording_acquire number level).simulates a
  release number := (recording_release number).simulates a
  dispose := (recording_dispose true).simulates a
  setConfiguration := (plain_recording a).setConfiguration (recording_openHandle.simulates_opening a)
    fun h index value => (recording_configure h index value).simulates a
  activeConfiguration := (plain_recording a).activeConfiguration (recording_openHandle.simulates_opening a)
    fun index => Keeps.simulates (recording_hold fun _ => ⟨rfl, rfl⟩ : Keeps recording
      (noteActive index)) a
  selectAlternate number alternate := (recording_selectAlternate number alternate).simulates a

/-- What is recorded goes along with all uses of a device. -/
theorem recording_use (u : Use) :
    Keeps recording (u.perform : DeviceAction (Watched Bus) Unit) := by
  refine keeps_of_simulates fun a => ?_
  have htypes : ∀ address l, Simulates (recording.from a) (endpointType address l)
      (endpointType address l) := (plain_recording a).endpointType fun key kind =>
    Keeps.simulates (recording_hold fun _ => ⟨rfl, rfl⟩ : Keeps recording (noteType key kind)) a
  have hmoves : TransfersInStep .same (recording.from a) := fun d {_} op hd => by
    have hchanges : op.changesHandles = false := by
      cases op <;> first | rfl | cases hd
    exact (recording_routine d op hchanges).simulates_on a
  exact simulates_use_of_whole (whole_recording a)
    (fun _ _ _ _ => (whole_recording a).transfer htypes hmoves _ _ _ _) u
    (fun _ _ _ _ _ => (whole_recording a).transfer htypes hmoves _ _ _ _)
    (fun _ => recording_reset.simulates a) fun setup data timeout _ =>
      (keeps_controlTransfer recording_openHandle (fun d h payload ms =>
        recording_routine d (.controlTransfer h setup payload ms) rfl) data timeout).simulates a

end

section

variable {given : UInt8 → Bool} {a : Attachment Bus}

theorem Recorded.use (hr : Recorded given a.device a.bus) (u : Use) :
    Recorded (fun n => (u.calls a).foldl (giveBack n) (given n)) (after u.perform a).device
      (after u.perform a).bus := by
  obtain ⟨sent, hs, hrec⟩ := recording_use u ⟨a.device, ⟨a.bus, []⟩⟩
  obtain ⟨-, hdevice, hbus⟩ := seen_use u ⟨a.device, ⟨a.bus, []⟩⟩ a ⟨rfl, rfl⟩
  rw [← hdevice, ← hbus, Use.calls, hs, List.nil_append]
  exact hrec given hr

/-- What is recorded goes along with a whole run. -/
theorem Recorded.run (hr : Recorded given a.device a.bus) (moves : List Move) :
    Recorded (fun n => (calls a moves).foldl (giveBack n) (given n)) (run a moves).device
      (run a moves).bus := by
  induction moves generalizing a given with
  | nil => exact hr
  | cons m rest ih =>
    cases m with
    | use u =>
      have hrest := ih (hr.use u)
      simp only [calls, List.foldl_append]
      exact hrest
    | hook k =>
      have hstep : Recorded given a.device (Move.step a (.hook k)).bus :=
        hr.routine rfl rfl (routine_step k a)
      exact ih hstep

end

/-- The alternate that a device reports for an interface is the one that its handle has selected. -/
theorem outcome_reportedAlternate {a : Attachment Bus} {h : HandleId} {held : Loopback.Handle}
    {state : Loopback.DeviceState} (hh : a.device.held.handle = some h)
    (hget : a.bus.handles.get? h = some held) (hstate : a.bus.device? held.device = some state)
    (hf : a.bus.failures.contains .ctrlTransfer = false) (n : UInt8) :
    outcome (reportedAlternate n) a = .ok ((held.alternates.get? n).getD 0) := by
  have hnone : a.bus.failures.get? .ctrlTransfer = none :=
    Option.not_isSome_iff_eq_none.1 (Bool.eq_false_iff.1 hf)
  have hreply : Bus.standardReply state held
      ⟨requestType .toHost .standard .interface, 0x0A, 0, n.toUInt16⟩ =
        .ok [(held.alternates.get? n).getD 0] := by
    have hindex : n.toUInt16.toUInt8 = n := UInt8.toUInt8_toUInt16 n
    have hrequest : Bus.standardReply state held
        ⟨requestType .toHost .standard .interface, 0x0A, 0, n.toUInt16⟩ =
          .ok [(held.alternates.get? n.toUInt16.toUInt8).getD 0] := rfl
    rw [hrequest, hindex]
  rw [reportedAlternate, outcome_bind_pure, outcome_readByte hh hget hstate hreply, hnone]
  rfl

/-- What the bus has for an interface with a recorded alternate is that alternate, exactly if the
interface was not given back since an alternate was last selected. Otherwise the bus has none, and
the device reports the first one. -/
theorem selected_iff_not_givenBack (specs : List Loopback.Device) (id : DeviceId)
    (descriptor : DeviceDescriptor) (moves : List Move) (h : HandleId) (n alternate : UInt8)
    (hh : (run (atStart specs id descriptor) moves).device.held.handle = some h)
    (hn : (run (atStart specs id descriptor) moves).device.held.alternates.get? n =
      some alternate) :
    let start := atStart specs id descriptor
    let a := run start moves
    let given := GivenBack n (calls start moves)
    (∃ held, a.bus.handles.get? h = some held ∧
      held.alternates.get? n = if given then none else some alternate) ∧
    (a.bus.failures.contains .ctrlTransfer = false →
      outcome (reportedAlternate n) a = .ok (if given then 0 else alternate)) := by
  intro start a given
  have hstart : Recorded (fun _ => false) start.device start.bus := recorded_of_empty rfl
  obtain ⟨held, state, hget, hstate, hbus⟩ := (hstart.run moves).opened h n alternate hh hn
  refine ⟨⟨held, hget, hbus⟩, fun hf => ?_⟩
  rw [outcome_reportedAlternate hh hget hstate hf n, hbus]
  have hsame : GivenBack n (calls start moves) =
      (calls start moves).foldl (giveBack n) false := rfl
  rw [← hsame]
  cases hgiven : GivenBack n (calls start moves) <;> simp [given, hgiven]

/-- A device whose only interface has two alternates. -/
def twoSettings : Loopback.Device :=
  (Loopback.Device.ofDescriptor {}).addConfiguration
    (((Loopback.Configuration.ofDescriptor {}).addInterface {}
      [{ endpointAddress := 0x01 }, { endpointAddress := 0x81 }]).addInterface
        { alternateSetting := 1 } [{ endpointAddress := 0x01, attributes := 3 }])

/-- The second alternate is selected, and the interface given back. -/
def selectAndRelease : List Move :=
  [.use (.call (.setAlternate (some 0) (some 1))), .use (.call (.release (some 0)))]

theorem selected_iff_not_givenBack_selectAndRelease :
    let start := atStart [twoSettings] ⟨0⟩ twoSettings.descriptor
    (GivenBack 0 (calls start (selectAndRelease.take 1)) = false ∧
      outcome (reportedAlternate 0) (run start (selectAndRelease.take 1)) = .ok 1) ∧
    GivenBack 0 (calls start selectAndRelease) = true ∧
      outcome (reportedAlternate 0) (run start selectAndRelease) = .ok 0 := by
  intro start
  have hselected : GivenBack 0 (calls start (selectAndRelease.take 1)) = false := by
    decide +kernel
  have hgiven : GivenBack 0 (calls start selectAndRelease) = true := by decide +kernel
  obtain ⟨-, hone⟩ := selected_iff_not_givenBack [twoSettings] ⟨0⟩ twoSettings.descriptor
    (selectAndRelease.take 1) ⟨1⟩ 0 1 (by decide +kernel) (by decide +kernel)
  obtain ⟨-, hboth⟩ := selected_iff_not_givenBack [twoSettings] ⟨0⟩ twoSettings.descriptor
    selectAndRelease ⟨1⟩ 0 1 (by decide +kernel) (by decide +kernel)
  rw [hselected] at hone
  rw [hgiven] at hboth
  exact ⟨⟨hselected, hone (by decide +kernel)⟩, hgiven, hboth (by decide +kernel)⟩

/-- The handle is open and nothing is made to fail. What is recorded is not what the bus has, and
not what the device reports. -/
theorem recorded_after_release :
    let a := run (atStart [twoSettings] ⟨0⟩ twoSettings.descriptor) selectAndRelease
    a.bus.failures = ∅ ∧ a.device.held.handle = some ⟨1⟩ ∧
      a.device.held.alternates.get? 0 = some 1 ∧
      ((a.bus.handles.get? ⟨1⟩).bind fun held => held.alternates.get? 0) = none ∧
      outcome (reportedAlternate 0) a = .ok 0 := by
  intro a
  exact ⟨by decide +kernel, by decide +kernel, by decide +kernel, by decide +kernel, rfl⟩

end SerialBus.Alternates
