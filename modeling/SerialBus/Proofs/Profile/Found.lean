import SerialBus.Proofs.Profile.Represents

/-! The lookups of a represented device: the active configuration, the current alternate of an
interface and the type of an endpoint are those of the profile. -/
namespace SerialBus.Loopback.Profile

open SerialBus.Action SerialBus.Device

variable {id : DeviceId} {p : Profile} (hregular : p.state.spec.Regular)
  (hfits : p.state.spec.Fits)

/-- The device is represented, and the configuration with this index is the active one. -/
def Active (id : DeviceId) (p : Profile) (c : Configuration) (index : UInt8) (a : Attachment Bus) :
    Prop :=
  Represents id p a ∧ p.state.active? = some c ∧ p.state.spec.configurations[index.toNat]? = some c

theorem configuration_eq_ok {c : Configuration} :
    p.configuration = .ok c ↔
      (p.selected || p.state.spec.reportsConfiguration) = true ∧ p.state.active? = some c := by
  unfold configuration
  cases (p.selected || p.state.spec.reportsConfiguration) with
  | false => simp
  | true => cases p.state.active? <;> simp

include hfits in
/-- A configuration of the device has a value. -/
theorem active?_of_zero (h : p.state.activeConfiguration = 0) : p.state.active? = none := by
  rw [DeviceState.active?, h, Loopback.Device.configurationByValue?, List.find?_eq_none]
  intro c hc
  simpa using (hfits.each c hc).value

theorem gives_readConfiguration (h : HandleId) : Gives (Ready id p h)
    (onBus (Backend.configuration h))
    (if p.state.spec.reportsConfiguration then .ok p.state.activeConfiguration
      else .error (.notSupported "get_configuration")) (Ready id p h) := by
  rintro a ⟨ha, hh⟩
  obtain ⟨r, hr, -, hstate, -⟩ := ha.entry hh
  obtain ⟨ho, hcore⟩ := Bus.configuration_works ha.failures hr hstate
  rw [outcome_onBus, after_onBus]
  exact ⟨ho, ha.atCore hcore, hh⟩

/-- The place of an alternate that is the current one of its interface. -/
structure Current (p : Profile) (l : InterfaceLocation) (al : Alternate) : Prop where
  located : Located p.state.spec l.config l al
  active : ∃ c, p.state.active? = some c ∧ p.state.spec.configurations[l.config.toNat]? = some c ∧
    al ∈ c.alternates
  selected : (p.alternates.get? al.descriptor.interfaceNumber).getD 0 =
    al.descriptor.alternateSetting
  alternate : p.state.alternate? al.descriptor.interfaceNumber al.descriptor.alternateSetting =
    some al

theorem alternate?_of_active {c : Configuration} (hactive : p.state.active? = some c)
    (number alternate : UInt8) : p.state.alternate? number alternate =
      c.alternates.find? fun a => a.descriptor.interfaceNumber == number &&
        a.descriptor.alternateSetting == alternate := by
  rw [DeviceState.alternate?, hactive]
  rfl

/-- The descriptor of a configuration, read by its index. -/
theorem reads_configurationDescriptor {c : Configuration} {index : UInt8}
    (hindex : p.state.spec.configurations[index.toNat]? = some c) :
    Reads id p (onBus (Backend.configurationDescriptor id index)) (.ok c.descriptor) := by
  refine reads_onBus fun b hf hd => ?_
  have hget := gives_configurationDescriptor hf hd index
  rw [Bus.configurationOf, hindex] at hget
  exact hget

theorem Current.endpoint? {l : InterfaceLocation} {al : Alternate} (h : Current p l al)
    (address : UInt8) : p.state.endpoint? l.descriptor.interfaceNumber
      l.descriptor.alternateSetting address =
        al.endpoints.find? fun e => e.endpointAddress == address := by
  rw [DeviceState.endpoint?, h.located.descriptor, h.alternate]
  rfl

/-- The active configuration that is in the cache is asked for its descriptor only. -/
theorem outcome_cachedConfiguration {a : Attachment Bus} (ha : Represents id p a) {i : UInt8}
    (hi : a.device.held.activeConfig = some i) :
    ∃ c, p.configuration = .ok c ∧
      outcome SerialBus.Device.activeConfiguration a = .ok (i, c.descriptor) ∧
      Active id p c i (after SerialBus.Device.activeConfiguration a) := by
  obtain ⟨c, hc, hindex⟩ := ha.configuration_of_some hi
  have hread : Reads id p (onBus (Backend.configurationDescriptor a.device.id i))
      (.ok c.descriptor) := by
    rw [ha.device]
    exact reads_configurationDescriptor hindex
  obtain ⟨ho, hs⟩ := hread a ha
  have heq : SerialBus.Device.activeConfiguration a =
      (onBus (Backend.configurationDescriptor a.device.id i) >>= fun d => pure (i, d)) a := by
    rw [activeConfiguration_eq, getHeld_bind, hi]
    rfl
  rw [outcome_congr heq, after_congr heq, outcome_bind_pure, after_bind_pure, ho]
  exact ⟨c, hc, rfl, hs, (configuration_eq_ok.1 hc).2, hindex⟩

include hregular hfits

/-- The active configuration that is not in the cache is read back. -/
theorem answers_readBack (hselected : p.selected = false) : Answers (Represents id p) readBack
    p.configuration (fun c r a => r.2 = c.descriptor ∧ Active id p c r.1 a) (Represents id p) := by
  refine Succeeds.bindAnswers succeeds_openHandle fun h => ?_
  have hread : Gives (Ready id p h) _ _ _ := gives_readConfiguration h
  rw [configuration, hselected, Bool.false_or]
  cases hreports : p.state.spec.reportsConfiguration with
  | false =>
    rw [hreports] at hread
    exact (hread.imp fun a ha => ha.1).bind_error
  | true =>
    rw [hreports] at hread
    refine hread.succeeds.bindAnswers fun value => ?_
    by_cases hzero : p.state.activeConfiguration = 0
    · rw [active?_of_zero hfits hzero]
      rintro a ⟨rfl, ha⟩
      rw [if_pos hzero]
      exact ⟨rfl, ha.1⟩
    · have hfind : Reads id p _ _ :=
        reads_configurationByValue hregular hfits p.state.activeConfiguration
      rcases configurationByValue_cases hfits p.state.activeConfiguration with
        ⟨hnone, hactive⟩ | ⟨i, c, hsome, hactive, hi⟩
      · rw [DeviceState.active?, hactive]
        rintro a ⟨rfl, ha⟩
        rw [if_neg hzero]
        rw [hnone] at hfind
        exact hfind.bind (gives_throw _) a ha.1
      · rw [DeviceState.active?, hactive]
        rintro a ⟨rfl, ha⟩
        rw [hsome] at hfind
        obtain ⟨ho, hs⟩ := hfind a ha.1
        rw [if_neg hzero]
        dsimp only
        rw [outcome_bind_ok _ ho, after_bind_ok _ ho]
        have hknown : (p.selected || p.state.spec.reportsConfiguration) = true := by
          rw [hreports, Bool.or_true]
        exact ⟨(i, c.descriptor), rfl, rfl, hs.remember hknown hi hactive, hactive, hi⟩

theorem answers_activeConfiguration : Answers (Represents id p)
    SerialBus.Device.activeConfiguration p.configuration
    (fun c r a => r.2 = c.descriptor ∧ Active id p c r.1 a) (Represents id p) := by
  intro a ha
  cases hi : a.device.held.activeConfig with
  | some i =>
    obtain ⟨c, hc, ho, hactive⟩ := outcome_cachedConfiguration ha hi
    rw [hc]
    exact ⟨_, ho, rfl, hactive⟩
  | none =>
    have hselected : p.selected = false := by
      refine Bool.eq_false_iff.2 fun hselected => ?_
      have hsome := ha.selected hselected
      rw [hi] at hsome
      cases hsome
    have hback : SerialBus.Device.activeConfiguration a = readBack a := by
      rw [activeConfiguration_eq, getHeld_bind, hi]
    rw [outcome_congr hback, after_congr hback]
    exact answers_readBack hregular hfits hselected a ha

/-- The search by position finds the place of the alternate that the bus selects. -/
theorem find?_wanted {c : Configuration} {config : UInt8} (hactive : p.state.active? = some c)
    (hindex : p.state.spec.configurations[config.toNat]? = some c) (n : UInt8) :
    let selected := p.alternates.get? n
    (places config c).find? (isWanted n selected) = none ∧
        p.state.alternate? n (selected.getD 0) = none ∨
      ∃ l al, (places config c).find? (isWanted n selected) = some l ∧
        p.state.alternate? n (selected.getD 0) = some al ∧ l.config = config ∧ Current p l al := by
  intro selected
  have hmem := List.mem_of_getElem? hindex
  have hcfits := hfits.each c hmem
  -- With no alternate selected the search takes the first one of the number, which is alternate 0.
  have hsearch : c.alternates.find? (fun a => a.descriptor.interfaceNumber == n &&
      selected.all (a.descriptor.alternateSetting == ·)) = p.state.alternate? n (selected.getD 0) := by
    rw [alternate?_of_active hactive]
    cases selected with
    | some s => rfl
    | none =>
      rw [Option.getD_none, ← Configuration.find?_alternates (hregular.configurations c hmem) hcfits]
      simp only [Option.all_none, Bool.and_true]
  rcases find?_of_forall₂ (located_places hindex hcfits) (p := isWanted n selected)
      (fun l a h => by rw [isWanted, h.descriptor]) with ⟨hx, hy⟩ | ⟨l, al, hx, hy, hl⟩
  · exact .inl ⟨hx, hsearch.symm.trans hy⟩
  · have hal := hsearch.symm.trans hy
    obtain ⟨hn, hs⟩ : al.descriptor.interfaceNumber = n ∧
        al.descriptor.alternateSetting = selected.getD 0 := by
      have htest := List.find?_some ((alternate?_of_active hactive _ _).symm.trans hal)
      simpa using htest
    have hmem := List.mem_of_find?_eq_some hy
    refine .inr ⟨l, al, hx, hal, hl.config, ?_, ?_, ?_, ?_⟩
    · rw [hl.config]
      exact hl
    · rw [hl.config]
      exact ⟨c, hactive, hindex, hmem⟩
    · rw [hn, hs]
    · rw [hn, hs]
      exact hal

theorem answers_findNumbered {c : Configuration} {config : UInt8}
    (hactive : p.state.active? = some c)
    (hindex : p.state.spec.configurations[config.toNat]? = some c) (n : UInt8) :
    Answers (Represents id p) (findNumbered id config c.descriptor.numInterfaces n) (p.current n)
      (fun al l a => Represents id p a ∧ Current p l al) (Represents id p) := by
  have hmem := List.mem_of_getElem? hindex
  have hwalk : Reads id p (onBus (InterfaceWalk.cursor.find (isWanted n (p.alternates.get? n))
      (wholeWalk id config c))) (.ok _) := reads_onBus fun b hf hd =>
    gives_find hf hd hindex (hregular.configurations c hmem) (hfits.each c hmem) _
  have hsame : ∀ a, Represents id p a → findNumbered id config c.descriptor.numInterfaces n a =
      (onBus (InterfaceWalk.cursor.find (isWanted n (p.alternates.get? n))
        (wholeWalk id config c)) >>= fun found =>
          found.elim (throw (.invalidInterface n (p.alternates.get? n))) pure) a := by
    intro a ha
    rw [findNumbered, getHeld_bind, ha.alternates]
    apply congrArg fun rest => (onBus (InterfaceWalk.cursor.find
      (isWanted n (p.alternates.get? n)) (wholeWalk id config c)) >>= rest) a
    funext found
    cases found <;> rfl
  refine Answers.congr ?_ hsame
  rcases find?_wanted hregular hfits hactive hindex n with ⟨hx, hy⟩ | ⟨l, al, hx, hy, -, hl⟩
  · rw [hx] at hwalk
    rw [current, hy]
    exact hwalk.bind (gives_throw _)
  · rw [hx] at hwalk
    rw [current, hy]
    intro a ha
    obtain ⟨ho, hs⟩ := hwalk a ha
    rw [outcome_bind_ok _ ho, after_bind_ok _ ho]
    exact ⟨l, rfl, hs, hl⟩

omit hfits in
/-- The first interface of a configuration, as it is read by position. -/
theorem interfaceNumber_none {c : Configuration} {config : UInt8}
    (hindex : p.state.spec.configurations[config.toNat]? = some c) :
    c.interfaceNumber none =
      (Bus.alternateOf p.state.spec 0 0 config).map (·.descriptor.interfaceNumber) := by
  have hne := (hregular.configurations c (List.mem_of_getElem? hindex)).nonempty
  rw [alternateOf_eq hindex, Configuration.interfaceNumber, Configuration.alternates]
  generalize c.interfaces = groups at hne ⊢
  cases groups with
  | nil => rfl
  | cons g rest =>
    obtain ⟨a, l, rfl⟩ := List.exists_cons_of_ne_nil (hne g List.mem_cons_self)
    rfl

omit hfits in
theorem gives_firstInterface {c : Configuration} {config : UInt8}
    (hindex : p.state.spec.configurations[config.toNat]? = some c) :
    Gives (Represents id p)
      (onBus (Backend.interfaceDescriptor id 0 0 config) >>= fun d => pure d.interfaceNumber)
      (c.interfaceNumber none) (Represents id p) := by
  have hread : Reads id p (onBus (Backend.interfaceDescriptor id 0 0 config)) _ :=
    reads_onBus fun b hf hd => gives_interfaceDescriptor hf hd 0 0 config
  have hnumber := hread.map (·.interfaceNumber)
  rw [interfaceNumber_none hregular hindex]
  cases halternate : Bus.alternateOf p.state.spec 0 0 config with
  | ok al =>
    rw [halternate] at hnumber
    exact hnumber
  | error e =>
    rw [halternate] at hnumber
    exact hnumber

theorem answers_findTarget {c : Configuration} {config : UInt8}
    (hactive : p.state.active? = some c)
    (hindex : p.state.spec.configurations[config.toNat]? = some c) (interface : Option UInt8) :
    Answers (Represents id p)
      (findTarget (.ofNumber? interface) config c.descriptor.numInterfaces)
      ((c.interfaceNumber interface).bind p.current)
      (fun al l a => Represents id p a ∧ Current p l al) (Represents id p) := by
  cases interface with
  | some n =>
    refine (answers_findNumbered hregular hfits hactive hindex n).congr fun a ha => ?_
    rw [findTarget, getDevice_bind, ha.device]
    rfl
  | none =>
    have hsame : ∀ a, Represents id p a →
        findTarget (.ofNumber? none) config c.descriptor.numInterfaces a =
          ((onBus (Backend.interfaceDescriptor id 0 0 config) >>= fun d =>
            pure d.interfaceNumber) >>=
              findNumbered id config c.descriptor.numInterfaces) a := by
      intro a ha
      rw [findTarget, getDevice_bind, ha.device, bind_assoc]
      rfl
    refine Answers.congr ?_ hsame
    refine (gives_firstInterface hregular hindex).answers.bind fun n m _ =>
      answers_from (Q := Represents id p) ?_
    rintro a ⟨rfl, ha⟩
    exact ⟨ha, answers_findNumbered hregular hfits hactive hindex m⟩

/-- The interface that is named is found at the place of its current alternate. -/
theorem answers_findInterface (interface : Option UInt8) :
    Answers (Represents id p) (findInterface (.ofNumber? interface)) (p.alternate interface)
      (fun al l a => Represents id p a ∧ Current p l al) (Represents id p) := by
  rw [findInterface_eq]
  refine (answers_activeConfiguration hregular hfits).bind fun c r _ =>
    answers_from (Q := Represents id p) ?_
  obtain ⟨config, descriptor⟩ := r
  rintro a ⟨rfl, ha, hactive, hindex⟩
  exact ⟨ha, answers_findTarget hregular hfits hactive hindex interface⟩

theorem Current.endpoints {l : InterfaceLocation} {al : Alternate} (h : Current p l al) :
    al.descriptor.numEndpoints = al.endpoints.length.toUInt8 ∧ al.endpoints.length ≤ 255 := by
  obtain ⟨c, -, hindex, hmem⟩ := h.active
  have hconfiguration := List.mem_of_getElem? hindex
  obtain ⟨g, hg, hal⟩ := List.mem_flatten.1 hmem
  exact ⟨(hregular.configurations c hconfiguration).numEndpoints g hg al hal,
    (hfits.each c hconfiguration).endpoints g hg al hal⟩

/-- The type of an endpoint of a current alternate. -/
theorem answers_endpointType {l : InterfaceLocation} {al : Alternate} (hl : Current p l al)
    (address : UInt8) : Answers (Represents id p) (endpointType address l)
      (match al.endpoints.find? fun e => e.endpointAddress == address with
      | none => .error (.invalidEndpoint address)
      | some e => .ok e)
      (fun e kind a => kind = e.transferType ∧ Represents id p a) (Represents id p) := by
  intro a ha
  have hendpoint := hl.endpoint? address
  unfold endpointType
  simp only [outcome_congr (getHeld_bind _ a), after_congr (getHeld_bind _ a)]
  cases hk : a.device.held.endpointTypes.get?
      ⟨address, l.descriptor.interfaceNumber, l.descriptor.alternateSetting⟩ with
  | some kind =>
    obtain ⟨e, he, rfl⟩ := ha.endpointTypes _ _ hk
    rw [← hendpoint, he]
    exact ⟨_, rfl, rfl, ha⟩
  | none =>
    obtain ⟨hcount, hlen⟩ := hl.endpoints hregular hfits
    have hfind : Reads id p (onBus ((endpointCursor id l).find
        (fun e => e.2.endpointAddress == address) 0)) _ :=
      reads_onBus fun b hf hd => gives_findEndpoint hf hd hl.located hcount hlen _
    dsimp only
    simp only [outcome_congr (getDevice_bind _ a), after_congr (getDevice_bind _ a), ha.device]
    rcases find?_of_forall₂ (forall₂_numbered (fun e => e) al.endpoints (by omega))
        (p := fun e => e.2.endpointAddress == address) (q := fun e => e.endpointAddress == address)
        (fun x e h => by rw [h.1]) with ⟨hx, he⟩ | ⟨x, e, hx, he, h, -⟩
    · rw [hx] at hfind
      rw [he]
      exact hfind.bind (gives_throw _) a ha
    · rw [hx] at hfind
      rw [he]
      obtain ⟨ho, hs⟩ := hfind a ha
      rw [outcome_bind_ok _ ho, after_bind_ok _ ho]
      subst h
      exact ⟨_, rfl, rfl, hs.rememberType (hendpoint.trans he)⟩

end SerialBus.Loopback.Profile
