import SerialBus.Proofs.Profile.Transfers

/-! Selections of a represented device: the configuration, the alternates and the claims. -/
namespace SerialBus.Loopback.Profile

open SerialBus.Action SerialBus.Device

variable {id : DeviceId} {p : Profile} (hregular : p.state.spec.Regular)
  (hfits : p.state.spec.Fits)

/-- The index goes with the value of a configuration, no index with 0. -/
def Indexed (p : Profile) (value : UInt8) : Option UInt8 → Prop
  | none => value = 0
  | some i => value ≠ 0 ∧ ∃ c, p.state.spec.configurations[i.toNat]? = some c ∧
    p.state.spec.configurationByValue? value = some c

include hfits in
/-- The first configuration is the first one with its value. -/
theorem indexed_first {c : Configuration} (hc : p.state.spec.configurations.head? = some c) :
    p.Indexed c.descriptor.configurationValue (some 0) := by
  have hmem := List.mem_of_head? hc
  refine ⟨(hfits.each c hmem).value, c, (Device.getElem?_zero _).trans hc, ?_⟩
  obtain ⟨rest, hrest⟩ := List.head?_eq_some_iff.1 hc
  rw [Loopback.Device.configurationByValue?, hrest]
  exact List.find?_cons_of_pos (beq_self_eq_true _)

/-- A configuration that was found is selected on both sides. -/
theorem Ready.configured {a : Attachment Bus} {h : HandleId} (ha : Ready id p h a) {value : UInt8}
    {index : Option UInt8} (hindex : p.Indexed value index) :
    let act : DeviceAction Bus Unit := do
      onBus (Backend.setConfiguration h value)
      modifyHeld ({ · with activeConfig := index, alternates := ∅, endpointTypes := ∅ })
    outcome act a = .ok () ∧ Represents id (p.configured value) (after act a) := by
  intro act
  obtain ⟨ha, hh⟩ := ha
  obtain ⟨r, hr, hdevice, hstate, -, hclaimed⟩ := ha.entry hh
  have hvalue : ¬ (value ≠ 0 ∧ (p.state.spec.configurationByValue? value).isNone) := by
    rintro ⟨hne, hnone⟩
    cases index with
    | none => exact hne hindex
    | some i =>
      obtain ⟨-, c, -, hc⟩ := hindex
      rw [hc] at hnone
      cases hnone
  obtain ⟨ho, hs⟩ := Bus.setConfiguration_works ha.failures hr hstate hvalue
  have ho' : outcome (onBus (Backend.setConfiguration h value)) a = .ok () :=
    (outcome_onBus _ a).trans ho
  rw [outcome_bind_ok _ ho', after_bind_ok _ ho', after_onBus, hs]
  refine ⟨rfl, ha.device, ha.descriptor, ha.failures, ?_, fun hn => ?_, fun i hi => ?_, rfl,
    fun hselected => ?_, fun i hi => ?_, fun key kind hk => ?_⟩
  · exact Bus.device?_modifyDevice_of_some _ ha.state hdevice
  · exact absurd (hh.symm.trans hn) nofun
  · cases hh.symm.trans hi
    exact ⟨_, Table.get?_modify_self.trans (congrArg _ hr), hdevice, rfl, hclaimed⟩
  · cases index with
    | none => exact absurd hindex (bne_iff_ne.1 hselected)
    | some i => rfl
  · cases hi
    obtain ⟨hne, c, hc, hactive⟩ := hindex
    have hselected : (p.configured value).selected = true := bne_iff_ne.2 hne
    rw [hselected, Bool.true_or]
    exact ⟨rfl, c, hc, hactive⟩
  · cases hk

/-- An alternate that exists is selected on both sides. -/
theorem gives_selectAlternate {number alternate : UInt8}
    (hsome : (p.state.alternate? number alternate).isSome) : Gives (Represents id p)
      (selectAlternate number alternate) (.ok ())
      (Represents id { p with alternates := p.alternates.insert number alternate }) := by
  unfold selectAlternate
  refine (gives_acquire number (max · 1)).bind ?_
  rintro a ⟨ha, hopen, hnumber⟩
  obtain ⟨h, hh⟩ := Option.isSome_iff_exists.1 hopen
  obtain ⟨ho, hs⟩ := eq_ok_iff.1 (openHandle_of_some hh)
  rw [outcome_bind_ok _ ho, after_bind_ok _ ho, hs]
  obtain ⟨r, hr, hdevice, hstate, halternates, hclaimed⟩ := ha.entry hh
  obtain ⟨ho, hs⟩ := Bus.setAlternate_works ha.failures hr hstate ((hclaimed number).trans hnumber)
    hsome
  have ho' : outcome (onBus (Backend.setAlternate h number alternate)) a = .ok () :=
    (outcome_onBus _ a).trans ho
  rw [outcome_bind_ok _ ho', after_bind_ok _ ho', after_onBus, hs]
  refine ⟨rfl, ha.device, ha.descriptor, ha.failures, ha.state, fun hn => ?_, fun i hi => ?_, ?_,
    ha.selected, ha.active, ha.endpointTypes⟩
  · exact absurd (hh.symm.trans hn) nofun
  · cases hh.symm.trans hi
    refine ⟨_, Table.get?_modify_self.trans (congrArg _ hr), hdevice, ?_, hclaimed⟩
    exact congrArg (Table.insert · number alternate) halternates
  · exact congrArg (Table.insert · number alternate) ha.alternates

include hfits in
theorem answers_chooseFirst :
    Answers (Represents id p) (chooseConfiguration none) (p.chosen none)
      (fun v r a => r.2 = v ∧ p.Indexed v r.1 ∧ Represents id p a) (Represents id p) := by
  have hread : Reads id p (onBus (Backend.configurationDescriptor id 0)) _ :=
    reads_onBus fun b hf hd => gives_configurationDescriptor hf hd 0
  have hsame : ∀ a, Represents id p a → (chooseConfiguration none : DeviceAction Bus _) a =
      (onBus (Backend.configurationDescriptor id 0) >>= fun d =>
        pure (some 0, d.configurationValue)) a := by
    intro a ha
    rw [chooseConfiguration, getDevice_bind, ha.device]
  refine Answers.congr ?_ hsame
  rw [Bus.configurationOf, Device.getElem?_zero] at hread
  rw [chosen]
  cases hc : p.state.spec.configurations.head? with
  | none =>
    rw [hc] at hread
    exact hread.bind_error
  | some c =>
    rw [hc] at hread
    intro a ha
    obtain ⟨ho, hs⟩ := hread a ha
    rw [outcome_bind_ok _ ho, after_bind_ok _ ho]
    exact ⟨_, rfl, rfl, indexed_first hfits hc, hs⟩

include hregular hfits

theorem answers_chooseConfiguration (value : Option UInt8) :
    Answers (Represents id p) (chooseConfiguration value) (p.chosen value)
      (fun v r a => r.2 = v ∧ p.Indexed v r.1 ∧ Represents id p a) (Represents id p) := by
  cases value with
  | none => exact answers_chooseFirst hfits
  | some value =>
    rw [chooseConfiguration, chosen]
    by_cases hzero : value = 0
    · rw [if_pos hzero, if_neg fun h => h.1 hzero]
      exact fun a ha => ⟨_, rfl, hzero.symm, hzero, ha⟩
    · rw [if_neg hzero]
      have hfind : Reads id p _ _ := reads_configurationByValue hregular hfits value
      rcases configurationByValue_cases hfits value with
        ⟨hnone, hv⟩ | ⟨i, c, hsome, hv, hi⟩
      · rw [hnone] at hfind
        rw [hv, if_pos ⟨hzero, rfl⟩]
        exact hfind.bind (gives_throw _)
      · rw [hsome] at hfind
        rw [hv, if_neg fun h => (by cases h.2)]
        intro a ha
        obtain ⟨ho, hs⟩ := hfind a ha
        dsimp only
        rw [outcome_bind_ok _ ho, after_bind_ok _ ho]
        exact ⟨_, rfl, rfl, ⟨hzero, c, hi, hv⟩, hs⟩

theorem gives_setConfiguration (value : Option UInt8) : Gives (Represents id p)
    (SerialBus.Device.setConfiguration value) (p.setConfiguration value).1
      (Represents id (p.setConfiguration value).2) := by
  have hchoose : Answers (Represents id p) _ _ _ _ :=
    answers_chooseConfiguration hregular hfits value
  rw [SerialBus.Device.setConfiguration, setConfiguration]
  cases hr : p.chosen value with
  | error e =>
    rw [hr] at hchoose
    exact Gives.bind_error hchoose
  | ok v =>
    rw [hr] at hchoose
    have hfound : Succeeds (Represents id p) (chooseConfiguration value) fun r a =>
        r.2 = v ∧ p.Indexed v r.1 ∧ Represents id p a := hchoose
    apply hfound.bind
    rintro ⟨index, v'⟩ a ⟨rfl, hindex, ha⟩
    obtain ⟨h, ho, hready⟩ := succeeds_openHandle a ha
    dsimp only
    rw [outcome_bind_ok _ ho, after_bind_ok _ ho]
    exact hready.configured hindex

omit hfits in
theorem gives_interfaceNumber (interface : Option UInt8) : Gives (Represents id p)
    (SerialBus.Device.interfaceNumber (.ofNumber? interface)) (p.claimedNumber interface)
      (Represents id p) := by
  cases interface with
  | some n => exact gives_pure n
  | none =>
    have hread : Gives (Represents id p) (onBus (Backend.interfaceDescriptor id 0 0 0) >>= fun d =>
        pure d.interfaceNumber) (p.claimedNumber none) (Represents id p) := by
      rw [claimedNumber]
      cases hc : p.state.spec.configurations.head? with
      | some c => exact gives_firstInterface hregular ((Device.getElem?_zero _).trans hc)
      | none =>
        have hnone : Reads id p (onBus (Backend.interfaceDescriptor id 0 0 0)) _ :=
          reads_onBus fun b hf hd => gives_interfaceDescriptor hf hd 0 0 0
        rw [Bus.alternateOf, Bus.configurationOf, Device.getElem?_zero, hc] at hnone
        exact hnone.bind_error
    intro a ha
    change outcome (getDevice >>= fun d => _) a = _ ∧ Represents id p (after (getDevice >>= _) a)
    rw [outcome_congr (getDevice_bind _ a), after_congr (getDevice_bind _ a), ha.device]
    exact hread a ha

omit hfits in
theorem gives_claim (interface : Option UInt8) : Gives (Represents id p)
    (SerialBus.Device.claim (.ofNumber? interface)) (p.claim interface) (Represents id p) := by
  have hnumber : Gives (Represents id p) _ _ _ := gives_interfaceNumber hregular interface
  rw [SerialBus.Device.claim, claim]
  cases hr : p.claimedNumber interface with
  | error e =>
    rw [hr] at hnumber
    exact hnumber.bind_error
  | ok n =>
    rw [hr] at hnumber
    exact hnumber.bind ((gives_acquire n (· + 1)).imp fun _ ha => ha.1)

/-- The walk through a whole configuration comes by the alternate if the bus knows it. -/
theorem gives_hasAlternate {c : Configuration} {config : UInt8} (hactive : p.state.active? = some c)
    (hindex : p.state.spec.configurations[config.toNat]? = some c) (number alternate : UInt8) :
    Gives (Represents id p) (hasAlternate config number alternate)
      (.ok (p.state.alternate? number alternate).isSome) (Represents id p) := by
  have hmem := List.mem_of_getElem? hindex
  let test (l : InterfaceLocation) : Bool :=
    l.descriptor.interfaceNumber == number && l.descriptor.alternateSetting == alternate
  have hread : Reads id p (onBus (Backend.configurationDescriptor id config)) _ :=
    reads_configurationDescriptor hindex
  have hfilter : Reads id p
      (onBus (InterfaceWalk.cursor.filter test (wholeWalk id config c))) _ :=
    reads_onBus fun b hf hd => gives_filter hf hd hindex (hregular.configurations c hmem)
      (hfits.each c hmem) test
  have hany : (p.state.alternate? number alternate).isSome =
      !((places config c).filter test).isEmpty := by
    rw [alternate?_of_active hactive]
    rcases find?_of_forall₂ (located_places hindex (hfits.each c hmem)) (p := test)
        (fun l a h => by dsimp only [test]; rw [h.descriptor]) with ⟨hx, hy⟩ | ⟨l, al, hx, hy, -⟩
    · rw [hy, List.filter_eq_nil_iff.2 (List.find?_eq_none.1 hx)]
      rfl
    · have hl : l ∈ (places config c).filter test :=
        List.mem_filter.2 ⟨List.mem_of_find?_eq_some hx, List.find?_some hx⟩
      rw [hy, List.isEmpty_eq_false_iff.2 (List.ne_nil_of_mem hl)]
      rfl
  rw [hany]
  intro a ha
  rw [hasAlternate, outcome_bind_ok _ (outcome_getDevice a), after_bind_ok _ (outcome_getDevice a),
    after_getDevice, ha.device]
  exact hread.bind (hfilter.map fun found => !found.isEmpty) a ha

/-- An alternate other than the current one has to exist in the active configuration. -/
theorem gives_checkAlternate {l : InterfaceLocation} {al : Alternate} (hl : Current p l al)
    (alternate : UInt8) : Gives (Represents id p) (checkAlternate l alternate)
      (if (p.state.alternate? al.descriptor.interfaceNumber alternate).isSome then .ok ()
        else .error (.invalidInterface al.descriptor.interfaceNumber (some alternate)))
      (Represents id p) := by
  obtain ⟨c, hactive, hindex, -⟩ := hl.active
  have hhas : Gives (Represents id p) _ _ _ := gives_hasAlternate hregular hfits hactive hindex
    al.descriptor.interfaceNumber alternate
  rw [checkAlternate, hl.located.descriptor]
  by_cases hcurrent : alternate = al.descriptor.alternateSetting
  · rw [if_neg (not_not_intro hcurrent), hcurrent, hl.alternate]
    exact gives_pure _
  · rw [if_pos hcurrent]
    cases hsome : (p.state.alternate? al.descriptor.interfaceNumber alternate).isSome with
    | true =>
      rw [hsome] at hhas
      exact hhas.bind (gives_pure _)
    | false =>
      rw [hsome] at hhas
      exact hhas.bind (gives_throw _)

theorem gives_setAlternate (interface alternate : Option UInt8) : Gives (Represents id p)
    (SerialBus.Device.setAlternate (.ofNumber? interface) alternate)
      (p.setAlternate interface alternate).1
      (Represents id (p.setAlternate interface alternate).2) := by
  have hfind : Answers (Represents id p) _ _ _ _ := answers_findInterface hregular hfits interface
  rw [setAlternate_eq, setAlternate]
  cases hr : p.alternate interface with
  | error e =>
    rw [hr] at hfind
    exact Gives.bind_error hfind
  | ok al =>
    rw [hr] at hfind
    have hfound : Succeeds (Represents id p) (findInterface (.ofNumber? interface)) fun l a =>
      Represents id p a ∧ Current p l al := hfind
    apply hfound.bind
    rintro l a ⟨ha, hl⟩
    have hcheck : Gives (Represents id p) _ _ _ := gives_checkAlternate hregular hfits hl
      (alternate.getD al.descriptor.alternateSetting)
    dsimp only
    rw [hl.located.descriptor]
    split
    next hsome =>
      rw [if_pos hsome] at hcheck
      exact hcheck.bind (gives_selectAlternate hsome) a ha
    next hnone =>
      rw [if_neg hnone] at hcheck
      exact hcheck.bind_error a ha

end SerialBus.Loopback.Profile
