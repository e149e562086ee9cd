import SerialBus.Proofs.Routing.Attached

/-! The transfer types that a device remembers are those of the active configuration, until data is
moved through a view whose endpoint the active configuration declares otherwise. -/
namespace SerialBus.Routing

open SerialBus.Action Device Session Custody
open Loopback (Bus DeviceState)

/-- The descriptors and the configuration are the same, and so are the types that are remembered. -/
structure Still (a e : Attachment Bus) : Prop where
  profile : (e.bus.device? e.device.id).map DeviceState.profile =
    (a.bus.device? a.device.id).map DeviceState.profile
  types : e.device.held.endpointTypes = a.device.held.endpointTypes

theorem Still.typing {a e : Attachment Bus} (h : Still a e) (T : Typing) (key : EndpointKey) :
    T.of e key = T.of a key :=
  bind_congr_profile (fun hp => T.congr hp key) h.profile

theorem Still.current {a e : Attachment Bus} (h : Still a e) : current? e = current? a :=
  bind_congr_profile active?_congr h.profile

theorem Still.coherent_iff {T : Typing} {a e : Attachment Bus} (h : Still a e) :
    Coherent T e ↔ Coherent T a := by
  unfold Coherent
  simp only [h.types, h.typing]

/-- Nothing is changed that coherence depends on. -/
def still (spec : Loopback.Device) : Evolution (Attachment Bus) where
  rel a e := Attached spec a → Attached spec e ∧ Still a e
  refl a ha := ⟨ha, rfl, rfl⟩
  trans h g ha := by
    obtain ⟨hs, hstill⟩ := h ha
    obtain ⟨ht, hrest⟩ := g hs
    exact ⟨ht, hrest.profile.trans hstill.profile, hrest.types.trans hstill.types⟩

/-- What is coherent stays so. -/
def coherence (T : Typing) (spec : Loopback.Device) : Evolution (Attachment Bus) where
  rel a e := Attached spec a → Attached spec e ∧ (Coherent T a → Coherent T e)
  refl a ha := ⟨ha, fun h => h⟩
  trans h g ha := by
    obtain ⟨hs, hkept⟩ := h ha
    obtain ⟨ht, hrest⟩ := g hs
    exact ⟨ht, fun hc => hrest (hkept hc)⟩

/-- The device stays where it is. -/
def basis (spec : Loopback.Device) : Evolution (Attachment Bus) where
  rel a e := Based spec a → Based spec e
  refl _ ha := ha
  trans h g ha := g (h ha)

section

variable {T : Typing} {spec : Loopback.Device} {a e : Attachment Bus}

theorem coherence_of_still (a e : Attachment Bus) (h : (still spec).rel a e) :
    (coherence T spec).rel a e := by
  intro ha
  obtain ⟨he, hstill⟩ := h ha
  exact ⟨he, hstill.coherent_iff.2⟩

/-- A step that leaves all handles with their devices. -/
theorem Based.steady (ha : Based spec a) (hid : e.device.id = a.device.id)
    (hh : ∀ h, e.device.held.handle = some h → a.device.held.handle = some h)
    (hs : a.bus.Steady e.bus) : Based spec e := by
  constructor
  · obtain ⟨d, hd, hspec⟩ := ha.state
    have hprofile := hs.profiles a.device.id
    rw [hd] at hprofile
    obtain ⟨d', hd', heq⟩ := Option.map_eq_some_iff.1 hprofile
    rw [hid]
    exact ⟨d', hd', (Prod.mk.inj heq).1.trans hspec⟩
  · intro h hopen
    obtain ⟨held, hget, hown⟩ := ha.opened h (hh h hopen)
    obtain ⟨other, hother, hdevice⟩ := hs.handles h held hget
    rw [hid]
    exact ⟨other, hother, hdevice.trans hown⟩

theorem still_of_steady (hid : e.device.id = a.device.id)
    (hh : e.device.held.handle = a.device.held.handle)
    (hactive : e.device.held.activeConfig = a.device.held.activeConfig)
    (htypes : e.device.held.endpointTypes = a.device.held.endpointTypes)
    (hs : a.bus.Steady e.bus) : (still spec).rel a e := by
  intro ha
  have hbased : Based spec e := ha.toBased.steady hid (fun h hopen => by rw [← hh]; exact hopen) hs
  have hprofile := hs.profiles a.device.id
  refine ⟨⟨hbased, ?_, fun i hi => ?_⟩, ?_, htypes⟩
  · rw [hactive, hh]
    exact ha.anchored
  · rw [hactive] at hi
    obtain ⟨d, descriptor, hd, hindexed⟩ := ha.active i hi
    rw [hd] at hprofile
    obtain ⟨d', hd', heq⟩ := Option.map_eq_some_iff.1 hprofile
    refine ⟨d', descriptor, ?_, ?_⟩
    · rw [hid]
      exact hd'
    · rw [(Prod.mk.inj heq).2]
      exact hindexed
  · rw [hid]
    exact hprofile

theorem still_of_stays (h : Stays a e) : (still spec).rel a e := by
  obtain ⟨hdevice, hcore⟩ := h
  have hsteady : a.bus.Steady e.bus := Bus.steady_of_core_eq hcore
  exact still_of_steady (by rw [hdevice]) (by rw [hdevice]) (by rw [hdevice]) (by rw [hdevice])
    hsteady

theorem still_act {α : Type} (d : Device) (op : Operation α) (hs : op.isSteady) :
    Keeps ((still spec).onBus d) (op.act : Action Bus α) := fun b =>
  still_of_steady rfl rfl rfl rfl (Bus.steady_act op hs b)

/-- A change of the device that keeps its handle and what it remembers of types. -/
theorem still_modify {f : Device → Device} (hf : ∀ d, (f d).id = d.id ∧
    (f d).held.handle = d.held.handle ∧ (f d).held.activeConfig = d.held.activeConfig ∧
    (f d).held.endpointTypes = d.held.endpointTypes) :
    Keeps (still spec) (modifyDevice f : DeviceAction Bus Unit) := by
  intro a
  obtain ⟨hid, hh, hactive, htypes⟩ := hf a.device
  exact still_of_steady hid hh hactive htypes (Bus.steady_of_core_eq rfl)

theorem still_hold {f : Holdings → Holdings} (hf : ∀ held, (f held).handle = held.handle ∧
    (f held).activeConfig = held.activeConfig ∧ (f held).endpointTypes = held.endpointTypes) :
    Keeps (still spec) (modifyHeld f : DeviceAction Bus Unit) :=
  still_modify fun d => ⟨rfl, hf d.held⟩

/-- A new handle is open for the device. -/
theorem still_openHandle : Keeps (still spec) (openHandle : DeviceAction Bus HandleId) := by
  apply keeps_opening
  intro a hh
  rw [after_openHandle_of_none hh]
  rcases Bus.openDevice_cases a.bus a.device.id with ⟨e, ho, hc⟩ | ⟨ho, hs⟩
  · change outcome (Backend.openDevice a.device.id : Action Bus HandleId) a.bus = _ at ho
    rw [ho]
    exact still_of_stays ⟨rfl, hc⟩
  · change outcome (Backend.openDevice a.device.id : Action Bus HandleId) a.bus = _ at ho
    change after (Backend.openDevice a.device.id : Action Bus HandleId) a.bus = _ at hs
    rw [ho, hs]
    refine fun ha => ⟨⟨⟨ha.state, fun h hopen => ?_⟩, fun _ => rfl, ha.active⟩, rfl, rfl⟩
    cases hopen
    exact ⟨_, Table.get?_insert_self, rfl⟩

theorem still_acquire (number : UInt8) (level : Nat → Nat) :
    Keeps (still spec) (acquire number level : DeviceAction Bus Unit) :=
  keeps_acquisition still_openHandle (fun d h => still_act d (.claimInterface h number) rfl)
    (fun _ => still_hold fun _ => ⟨rfl, rfl, rfl⟩) level

theorem still_release (number : UInt8) :
    Keeps (still spec) (release (.number number) : DeviceAction Bus Unit) :=
  keeps_giveBack still_openHandle (fun d h n _ => still_act d (.releaseInterface h n) rfl)
    (fun _ => still_hold fun _ => ⟨rfl, rfl, rfl⟩) number

theorem still_selectAlternate (number alternate : UInt8) :
    Keeps (still spec) (selectAlternate number alternate : DeviceAction Bus Unit) :=
  Keeps.bind (still_acquire number (max · 1)) fun _ => still_openHandle.bind fun h =>
    (Keeps.onBus fun d => still_act d (.setAlternate h number alternate) rfl).bind fun _ =>
      still_hold fun _ => ⟨rfl, rfl, rfl⟩

theorem plain_still (a : Attachment Bus) : Plain .same ((still spec).from a) :=
  plain_of_keeps (fun d {_} op hq hs _ => still_act d op (Operation.isSteady_of_isQuiet hq hs)) a

/-- The configuration that is found to be active is that. -/
theorem still_activeConfiguration : Keeps (still spec)
    (activeConfiguration : DeviceAction Bus (UInt8 × ConfigurationDescriptor)) := by
  intro a
  cases hi : a.device.held.activeConfig with
  | some i =>
    have hcached : activeConfiguration a =
        (onBus (Backend.configurationDescriptor a.device.id i : Action Bus _) >>= fun d =>
          pure (i, d)) a := by
      rw [activeConfiguration_eq, getHeld_bind, hi]
      rfl
    rw [after_congr hcached]
    have hread : Keeps (still spec) (onBus (Backend.configurationDescriptor a.device.id i) >>=
        fun d => pure (i, d) : DeviceAction Bus _) :=
      (Keeps.onBus fun d => still_act d (.configurationDescriptor a.device.id i) rfl).bind
        fun _ => keeps_pure _
    exact hread a
  | none =>
    have hback : activeConfiguration a = (readBack a : _) := by
      rw [activeConfiguration_eq, getHeld_bind, hi]
    rw [after_congr hback, readBack_eq]
    refine (still_openHandle.bindFrom fun s h ho => ?_) a
    generalize hs : after openHandle s = t
    have hopen : t.device.held.handle = some h := hs ▸ handle_after_openHandle ho
    intro ht
    obtain ⟨d, hd, rfl⟩ := ht.state
    obtain ⟨held, hh, hown⟩ := ht.opened h hopen
    have hreported := meets_reported hd hh hown
    rw [after_bind]
    cases hr : outcome (reported h) t with
    | error e => exact still_of_stays (stays_after hreported) ht
    | ok p =>
      have hindexed := fit_of_outcome hreported hr
      obtain ⟨hafter, hstill⟩ := still_of_stays (stays_after hreported) ht
      obtain ⟨hdevice, hcore⟩ := stays_after hreported
      -- The index is kept that was found for what is active.
      refine ⟨⟨⟨hafter.state, hafter.opened⟩, fun _ => ?_, fun i hi => ?_⟩, hstill.profile,
        hstill.types⟩
      · change (after (reported h) t).device.held.handle.isSome = true
        rw [hdevice, hopen]
        rfl
      · cases hi
        refine ⟨d, p.2, ?_, hindexed⟩
        change (after (reported h) t).bus.device? (after (reported h) t).device.id = some d
        rw [hdevice, hcore.device?]
        exact hd

/-! What forgets the types. -/

theorem coherence_act {α : Type} (d : Device) (op : Operation α) (hs : op.isSteady) :
    Keeps ((coherence T spec).onBus d) (op.act : Action Bus α) := fun b =>
  coherence_of_still _ _ (still_act d op hs b)

theorem basis_hold {f : Holdings → Holdings} (hf : ∀ held, (f held).handle = held.handle) :
    Keeps (basis spec) (modifyHeld f : DeviceAction Bus Unit) := by
  intro a ha
  refine ha.steady rfl (fun h hopen => ?_) (Bus.steady_of_core_eq rfl)
  rw [← hf]
  exact hopen

theorem basis_closeHandle : Keeps (basis spec) (closeHandle : DeviceAction Bus Unit) := by
  intro a
  cases hh : a.device.held.handle with
  | none =>
    rw [(eq_ok_iff.1 (closeHandle_of_none hh)).2]
    exact (basis spec).refl a
  | some h =>
    have hprofiles : a.bus.SameProfiles (after (Bus.closeDevice h) a.bus) :=
      Bus.sameProfiles_act (.closeDevice h) rfl a.bus
    rw [after_congr (closeHandle_of_some hh), after_onBus]
    intro ha
    obtain ⟨d, hd, hspec⟩ := ha.state
    have hprofile := hprofiles a.device.id
    rw [hd] at hprofile
    obtain ⟨d', hd', heq⟩ := Option.map_eq_some_iff.1 hprofile
    exact ⟨⟨d', hd', (Prod.mk.inj heq).1.trans hspec⟩, nofun⟩

/-- A disposal leaves the device where it is, and nothing remembered. -/
theorem coherence_dispose (close : Bool) :
    Keeps (coherence T spec) (dispose close : DeviceAction Bus Unit) := by
  have hbasis : Keeps (basis spec) (dispose close : DeviceAction Bus Unit) :=
    keeps_disposal (basis_hold fun _ => rfl)
      (fun d h number b ha => ha.steady rfl (fun _ hopen => hopen)
        (Bus.steady_act (.releaseInterface h number) rfl b))
      basis_closeHandle (basis_hold fun _ => rfl) close
  intro a ha
  have hbased := hbasis a ha.toBased
  obtain ⟨released, hr⟩ := outcome_releaseAll a
  obtain ⟨closed, hc⟩ := outcome_closeIf close (after releaseAll a)
  obtain ⟨-, hstate⟩ := dispose_apply hr hc
  rw [hstate] at hbased ⊢
  exact ⟨⟨hbased, nofun, nofun⟩, fun _ key kind hk => by cases hk⟩

theorem coherence_reset : Keeps (coherence T spec) (reset : DeviceAction Bus Unit) :=
  (still_openHandle.mono coherence_of_still).bind fun h => (coherence_dispose false).bind fun _ =>
    (Keeps.onBus fun d => coherence_act d (.resetDevice h) rfl).bind fun _ =>
      coherence_dispose true

/-- A configuration that was chosen is the active one in the end, and no types are remembered. -/
theorem coherence_configure {h : HandleId} (hh : a.device.held.handle = some h)
    {p : Option UInt8 × UInt8} (hp : Chosen spec p) :
    (coherence T spec).rel a (after (configure h p.1 p.2) a) := by
  unfold configure
  rw [after_bind, outcome_onBus, after_onBus]
  have hout : outcome (Backend.setConfiguration h p.2 : Action Bus Unit) a.bus =
      outcome (Bus.setConfiguration h p.2) a.bus := rfl
  have hafter : after (Backend.setConfiguration h p.2 : Action Bus Unit) a.bus =
      after (Bus.setConfiguration h p.2) a.bus := rfl
  rw [hout, hafter]
  rcases Bus.setConfiguration_cases h p.2 a.bus with ⟨e, ho, hc⟩ | ⟨held, d, hget, hd, -, ho, hs⟩
  · rw [ho]
    exact coherence_of_still _ _ (still_of_stays ⟨rfl, hc⟩)
  · rw [ho, hs]
    intro ha
    obtain ⟨held', hget', hown⟩ := ha.opened h hh
    cases hget.symm.trans hget'
    obtain ⟨d', hd', rfl⟩ := ha.state
    have hstate := Bus.device?_modifyDevice_of_some (b := a.bus.counted .setConfiguration none)
      (fun d => { d with activeConfiguration := p.2 }) hd' hown
    refine ⟨⟨⟨⟨_, hstate, rfl⟩, fun i hi => ?_⟩, fun _ => ?_, fun i hi => ?_⟩,
      fun _ key kind hk => ?_⟩
    · cases hh.symm.trans hi
      exact ⟨_, (Table.get?_modify_self).trans (congrArg _ hget), hown⟩
    · change a.device.held.handle.isSome = true
      rw [hh]
      rfl
    · obtain ⟨descriptor, hindexed⟩ := hp i hi
      exact ⟨_, descriptor, hstate, hindexed⟩
    · cases hk

theorem coherence_setConfiguration (value : Option UInt8) :
    Keeps (coherence T spec) (setConfiguration value : DeviceAction Bus Unit) := by
  intro a ha
  obtain ⟨d, hd, rfl⟩ := ha.state
  have hchosen := meets_chooseConfiguration hd value
  have hparts : (setConfiguration value : DeviceAction Bus Unit) =
      chooseConfiguration value >>= fun p => openHandle >>= fun h => configure h p.1 p.2 := rfl
  have hstays : (coherence T d.spec).rel a (after (chooseConfiguration value) a) :=
    coherence_of_still _ _ (still_of_stays (stays_after hchosen))
  rw [hparts, after_bind]
  cases ho : outcome (chooseConfiguration value) a with
  | error e => exact hstays ha
  | ok p =>
    have hp : Chosen d.spec p := fit_of_outcome hchosen ho
    have hrest : Keeps (coherence T d.spec) (openHandle >>= fun h => configure h p.1 p.2) :=
      (still_openHandle.mono coherence_of_still).bindFrom fun s h hopen =>
        coherence_configure (handle_after_openHandle hopen) hp
    exact (coherence T d.spec).trans hstays (hrest _) ha

/-! What is asked for a type. -/

/-- The search for an endpoint on an alternate. -/
def scan (id : DeviceId) (address : UInt8) (l : InterfaceLocation) :
    DeviceAction Bus (Option (UInt8 × EndpointDescriptor)) :=
  onBus ((endpointCursor id l).find (fun e => e.2.endpointAddress == address) 0)

theorem stays_scan (address : UInt8) (l : InterfaceLocation) :
    Stays a (after (scan a.device.id address l) a) := by
  have hload : ∀ i : Nat, Meets (Loopback.AtCore a.bus)
      (Backend.endpointDescriptor a.device.id i.toUInt8 l.index l.alternateIndex l.config >>=
        fun e => pure (i.toUInt8, e) : Action Bus _) fun _ => True := fun i =>
    (Loopback.meets_of_core (R := fun _ => True) (Bus.core_endpointDescriptor a.device.id i.toUInt8
      l.index l.alternateIndex l.config) fun _ _ _ _ => trivial).map fun _ _ => trivial
  have hfind := Loopback.meets_find_ofIndex l.descriptor.numEndpoints.toNat hload
    (fun e => e.2.endpointAddress == address) 0
  exact stays_after (meets_onBus hfind)

theorem endpointType_of_none {address : UInt8} {l : InterfaceLocation}
    (hk : a.device.held.endpointTypes.get?
      ⟨address, l.descriptor.interfaceNumber, l.descriptor.alternateSetting⟩ = none) :
    endpointType address l a = (scan a.device.id address l >>= fun found =>
      match found with
      | none => throw (.invalidEndpoint address)
      | some (_, e) => do
        noteType ⟨address, l.descriptor.interfaceNumber, l.descriptor.alternateSetting⟩
          e.transferType
        return e.transferType) a := by
  rw [endpointType, getHeld_bind, hk]
  dsimp only
  rw [getDevice_bind]
  rfl

/-- A type that is found is remembered, or was before. -/
theorem endpointType_cases (address : UInt8) (l : InterfaceLocation) :
    let key : EndpointKey :=
      ⟨address, l.descriptor.interfaceNumber, l.descriptor.alternateSetting⟩
    (∃ kind, a.device.held.endpointTypes.get? key = some kind ∧
      endpointType address l a = .ok kind a) ∨
    (∃ e, outcome (endpointType address l) a = .error e ∧
      Stays a (after (endpointType address l) a)) ∨
    ∃ i e s, outcome (scan a.device.id address l) a = .ok (some (i, e)) ∧ Stays a s ∧
      outcome (endpointType address l) a = .ok e.transferType ∧
      after (endpointType address l) a = after (noteType key e.transferType) s := by
  intro key
  cases hk : a.device.held.endpointTypes.get? key with
  | some kind =>
    refine .inl ⟨kind, rfl, ?_⟩
    rw [endpointType, getHeld_bind, hk]
    rfl
  | none =>
    have hparts := endpointType_of_none hk
    have hstays := stays_scan (a := a) address l
    rw [outcome_congr hparts, after_congr hparts, outcome_bind, after_bind]
    cases ho : outcome (scan a.device.id address l) a with
    | error e => exact .inr (.inl ⟨e, rfl, hstays⟩)
    | ok found =>
      cases found with
      | none => exact .inr (.inl ⟨_, rfl, hstays⟩)
      | some p => exact .inr (.inr ⟨p.1, p.2, _, rfl, hstays, rfl, rfl⟩)

theorem attached_endpointType (ha : Attached spec a) (address : UInt8) (l : InterfaceLocation) :
    Attached spec (after (endpointType address l) a) := by
  rcases endpointType_cases (a := a) address l with
    ⟨kind, hk, hcached⟩ | ⟨e, ho, hstays⟩ | ⟨i, e, s, -, hstays, ho, hs⟩
  · rw [(eq_ok_iff.1 hcached).2]
    exact ha
  · exact (still_of_stays hstays ha).1
  · rw [hs]
    have hafter : Attached spec s := (still_of_stays hstays ha).1
    exact ⟨⟨hafter.state, hafter.opened⟩, hafter.anchored, hafter.active⟩

/-- After a type was found, all is as coherent as that type is right. -/
theorem coherent_endpointType_iff (ha : Attached spec a) (hc : Coherent T a) (address : UInt8)
    (l : InterfaceLocation) : Coherent T (after (endpointType address l) a) ↔ ∀ kind,
      outcome (endpointType address l) a = .ok kind → T.of a
        ⟨address, l.descriptor.interfaceNumber, l.descriptor.alternateSetting⟩ = some kind := by
  rcases endpointType_cases (a := a) address l with
    ⟨kind, hk, hcached⟩ | ⟨e, ho, hstays⟩ | ⟨i, e, s, -, hstays, ho, hs⟩
  · obtain ⟨ho, hs⟩ := eq_ok_iff.1 hcached
    rw [ho, hs]
    refine ⟨fun _ other hother => ?_, fun _ => hc⟩
    cases hother
    exact hc _ kind hk
  · have hkept : (still spec).rel a _ := still_of_stays hstays
    obtain ⟨-, hstill⟩ := hkept ha
    rw [ho]
    exact ⟨fun _ => nofun, fun _ => hstill.coherent_iff.2 hc⟩
  · have hkept : (still spec).rel a s := still_of_stays hstays
    obtain ⟨-, hstill⟩ := hkept ha
    rw [ho, hs]
    constructor
    · intro hnew kind hkind
      cases hkind
      have hnote := hnew _ _ Table.get?_insert_self
      exact (hstill.typing T _).symm.trans hnote
    · intro hright key kind hk
      change (s.device.held.endpointTypes.insert _ _).get? key = _ at hk
      change T.of s key = _
      rw [hstill.typing]
      by_cases hkey :
        ⟨address, l.descriptor.interfaceNumber, l.descriptor.alternateSetting⟩ = key
      · subst hkey
        rw [Table.get?_insert_self] at hk
        cases hk
        exact hright _ rfl
      · rw [Table.get?_insert_of_ne hkey, hstill.types] at hk
        exact hc key kind hk

/-- A type that is found where the active configuration has its alternate is the right one. -/
theorem typing_of_endpointType (ha : Attached spec a) (hc : Coherent T a)
    {c : Loopback.Configuration} (hcurrent : current? a = some c) {config : UInt8}
    (hindex : spec.configurations[config.toNat]? = some c) {l : InterfaceLocation}
    (hl : Placed spec config l) {address : UInt8} {kind : TransferType}
    (ho : outcome (endpointType address l) a = .ok kind) : T.of a
      ⟨address, l.descriptor.interfaceNumber, l.descriptor.alternateSetting⟩ = some kind := by
  rcases endpointType_cases (a := a) address l with
    ⟨other, hk, hcached⟩ | ⟨e, herror, -⟩ | ⟨i, e, s, hscan, -, hok, -⟩
  · have hother := (eq_ok_iff.1 hcached).1
    rw [ho] at hother
    cases hother
    exact hc _ kind hk
  · rw [ho] at herror
    cases herror
  · rw [ho] at hok
    cases hok
    obtain ⟨al, hplace, htype⟩ := T.of_placed hcurrent hindex hl
    obtain ⟨d, hd, rfl⟩ := ha.state
    have halternate := hplace.alternate
    have hfind := meets_onBus (Loopback.meets_findEndpoint hd halternate address)
    exact htype address e (fit_of_outcome hfind hscan _ rfl)

/-- The index that is returned is remembered. -/
theorem activeConfig_after {p : UInt8 × ConfigurationDescriptor}
    (ho : outcome activeConfiguration a = .ok p) :
    (after activeConfiguration a).device.held.activeConfig = some p.1 := by
  cases hi : a.device.held.activeConfig with
  | some i =>
    have hcached : activeConfiguration a =
        (onBus (Backend.configurationDescriptor a.device.id i : Action Bus _) >>= fun d =>
          pure (i, d)) a := by
      rw [activeConfiguration_eq, getHeld_bind, hi]
      rfl
    rw [outcome_congr hcached, outcome_bind_pure] at ho
    obtain ⟨d, -, rfl⟩ := Bus.map_eq_ok.1 ho
    rw [after_congr hcached, after_bind_pure, after_onBus]
    exact hi
  | none =>
    have hback : activeConfiguration a = (readBack a : _) := by
      rw [activeConfiguration_eq, getHeld_bind, hi]
    rw [outcome_congr hback, readBack_eq] at ho
    obtain ⟨h, hopen, ho⟩ := outcome_bind_eq_ok.1 ho
    obtain ⟨found, hfound, ho⟩ := outcome_bind_eq_ok.1 ho
    cases ho
    rw [after_congr hback, readBack_eq, after_bind_ok _ hopen, after_bind_ok _ hfound]
    rfl

theorem still_findInterface (target : InterfaceTarget) :
    Keeps (still spec) (findInterface target : DeviceAction Bus InterfaceLocation) := by
  refine keeps_of_simulates fun a => ?_
  rw [findInterface_eq]
  exact (still_activeConfiguration.simulates a).bind fun p =>
    (plain_still a).findTarget target p.1 p.2.numInterfaces

/-- An interface that is named is found in the active configuration. -/
theorem placed_of_findInterface (hassembled : spec.Assembled) (ha : Attached spec a)
    {interface : Option UInt8} {l : InterfaceLocation}
    (ho : outcome (findInterface (.ofNumber? interface)) a = .ok l) : ∃ config c,
      spec.configurations[config.toNat]? = some c ∧ current? a = some c ∧
        Placed spec config l := by
  rw [findInterface_eq] at ho
  obtain ⟨p, hp, ho⟩ := outcome_bind_eq_ok.1 ho
  have hactive := activeConfig_after hp
  obtain ⟨hs, hstill⟩ := still_activeConfiguration a ha
  generalize after activeConfiguration a = s at ho hactive hs hstill
  obtain ⟨c, hc, hcurrent⟩ := hs.current hactive
  obtain ⟨d, hd, rfl⟩ := hs.state
  have hfind := meets_findTarget hd hassembled hc interface p.2.numInterfaces
  exact ⟨p.1, c, hc, hstill.current.symm.trans hcurrent, fit_of_outcome hfind ho⟩

/-- A transfer on an interface that is named goes by the right type. -/
theorem typing_of_route (hassembled : spec.Assembled) (ha : Attached spec a)
    (hc : Coherent T a) {endpoint : UInt8} {interface : Option UInt8}
    {r : InterfaceLocation × TransferType}
    (ho : outcome (route endpoint (.ofNumber? interface)) a = .ok r) : T.of a
      ⟨endpoint, r.1.descriptor.interfaceNumber, r.1.descriptor.alternateSetting⟩ = some r.2 := by
  unfold route at ho
  obtain ⟨l, hl, ho⟩ := outcome_bind_eq_ok.1 ho
  obtain ⟨kind, hkind, ho⟩ := outcome_bind_eq_ok.1 ho
  cases ho
  obtain ⟨config, c, hindex, hcurrent, hplaced⟩ := placed_of_findInterface hassembled ha hl
  obtain ⟨hs, hstill⟩ := still_findInterface (.ofNumber? interface) a ha
  rw [← hstill.typing]
  exact typing_of_endpointType hs (hstill.coherent_iff.2 hc)
    (hstill.current.trans hcurrent) hindex hplaced hkind

/-! Whole transfers. -/

theorem after_route (endpoint : UInt8) (target : InterfaceTarget) (a : Attachment Bus) :
    after (route endpoint target) a = after (findInterface target >>= endpointType endpoint) a := by
  unfold route
  rw [after_bind, after_bind]
  cases outcome (findInterface target) a with
  | error e => rfl
  | ok l => exact after_bind_pure _ _ _

theorem attached_route (ha : Attached spec a) (endpoint : UInt8) (target : InterfaceTarget) :
    Attached spec (after (route endpoint target) a) := by
  obtain ⟨hs, -⟩ := still_findInterface target a ha
  rw [after_route, after_bind]
  cases outcome (findInterface target) a with
  | error e => exact hs
  | ok l => exact attached_endpointType hs endpoint l

/-- After the way of a transfer was found, all is as coherent as its type is right. -/
theorem coherent_route_iff (ha : Attached spec a) (hc : Coherent T a) (endpoint : UInt8)
    (target : InterfaceTarget) : Coherent T (after (route endpoint target) a) ↔ ∀ r,
      outcome (route endpoint target) a = .ok r → T.of a
        ⟨endpoint, r.1.descriptor.interfaceNumber, r.1.descriptor.alternateSetting⟩ =
          some r.2 := by
  obtain ⟨hs, hstill⟩ := still_findInterface target a ha
  have hcoherent := hstill.coherent_iff.2 hc
  rw [after_route, after_bind]
  unfold route
  rw [outcome_bind]
  cases ho : outcome (findInterface target) a with
  | error e => exact ⟨fun _ => nofun, fun _ => hcoherent⟩
  | ok l =>
    dsimp only
    rw [coherent_endpointType_iff hs hcoherent, outcome_bind_pure]
    constructor
    · intro hright r hr
      obtain ⟨kind, hkind, rfl⟩ := Bus.map_eq_ok.1 hr
      rw [← hstill.typing]
      exact hright kind hkind
    · intro hright kind hkind
      rw [hstill.typing]
      exact hright (l, kind) (by rw [hkind]; rfl)

theorem still_carry (endpoint : UInt8) (payload : Payload) (timeout : Option Nat)
    (r : InterfaceLocation × TransferType) :
    Keeps (still spec) (carry endpoint payload timeout r : DeviceAction Bus Transferred) := by
  refine keeps_of_simulates fun a => ?_
  have hmoves : TransfersInStep .same ((still spec).from a) := fun d {_} op hd => by
    have hsteady : op.isSteady := by
      cases op <;> first | rfl | cases hd
    exact (still_act d op hsteady).simulates_on a
  have hclaim : Simulates ((still spec).from a) (acquire r.1.descriptor.interfaceNumber (max · 1))
      (acquire r.1.descriptor.interfaceNumber (max · 1)) := (still_acquire _ _).simulates a
  unfold carry
  rw [ensureClaimed_resolved]
  exact hclaim.bind fun _ => (still_openHandle.simulates_opening a).mapBind fun h =>
    ((plain_still a).timeoutOr timeout).bind fun ms =>
      (plain_still a).dataTransfer hmoves r.2 h endpoint r.1.descriptor.interfaceNumber payload ms

theorem still_carried (endpoint : UInt8) (payload : Payload) (target : InterfaceTarget)
    (timeout : Option Nat) (a : Attachment Bus) : (still spec).rel (after (route endpoint target) a)
      (after (transfer endpoint payload target timeout) a) := by
  rw [transfer_eq_carry, after_bind]
  cases outcome (route endpoint target) a with
  | error e => exact (still spec).refl _
  | ok r => exact still_carry endpoint payload timeout r _

theorem attached_transfer (ha : Attached spec a) (endpoint : UInt8) (payload : Payload)
    (target : InterfaceTarget) (timeout : Option Nat) :
    Attached spec (after (transfer endpoint payload target timeout) a) :=
  (still_carried endpoint payload target timeout a (attached_route ha endpoint target)).1

theorem coherent_transfer_iff (ha : Attached spec a) (hc : Coherent T a) (endpoint : UInt8)
    (payload : Payload) (target : InterfaceTarget) (timeout : Option Nat) :
    Coherent T (after (transfer endpoint payload target timeout) a) ↔ ∀ r,
      outcome (route endpoint target) a = .ok r → T.of a
        ⟨endpoint, r.1.descriptor.interfaceNumber, r.1.descriptor.alternateSetting⟩ =
          some r.2 := by
  obtain ⟨-, hstill⟩ :=
    still_carried endpoint payload target timeout a (attached_route ha endpoint target)
  exact hstill.coherent_iff.trans (coherent_route_iff ha hc endpoint target)

/-- A transfer on an interface that is named leaves all types right. -/
theorem coherence_transfer (hassembled : spec.Assembled) (endpoint : UInt8) (payload : Payload)
    (interface : Option UInt8) (timeout : Option Nat) : Keeps (coherence T spec)
      (transfer endpoint payload (.ofNumber? interface) timeout : DeviceAction Bus Transferred) :=
  fun _ ha => ⟨attached_transfer ha endpoint payload _ timeout, fun hc =>
    (coherent_transfer_iff ha hc endpoint payload _ timeout).2 fun _ =>
      typing_of_route hassembled ha hc⟩

theorem whole_coherence (a : Attachment Bus) : Whole .same ((coherence T spec).from a) where
  name := rfl
  device := device_of_from
  bus := fun d {_} op hq hs _ =>
    (coherence_act d op (Operation.isSteady_of_isQuiet hq hs)).simulates_on a
  setTimeout n := Keeps.simulates (Keeps.mono (still_modify fun _ => ⟨rfl, rfl, rfl, rfl⟩)
    coherence_of_still : Keeps (coherence T spec) (modifyDevice ({ · with defaultTimeout := n }))) a
  openHandle := (still_openHandle.mono coherence_of_still).simulates_opening a
  acquire number level _ := ((still_acquire number level).mono coherence_of_still).simulates a
  release number := ((still_release number).mono coherence_of_still).simulates a
  dispose := (coherence_dispose true).simulates a
  setConfiguration value := (coherence_setConfiguration value).simulates a
  activeConfiguration := (still_activeConfiguration.mono coherence_of_still).simulates a
  selectAlternate number alternate :=
    ((still_selectAlternate number alternate).mono coherence_of_still).simulates a

end

end SerialBus.Routing
