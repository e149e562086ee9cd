import SerialBus.Device.View
import SerialBus.Proofs.Loopback.Grouping
import SerialBus.Proofs.Loopback.Places

/-! The descriptor tree of a loopback configuration as it is read. Iterations come by all that was
added, once each and in order, and an index leads to the item that stands there, or to nothing. -/
namespace SerialBus.Loopback

open SerialBus.Action

/-- The place that two indices lead to, or the index that is missing. -/
def locationAt (config : UInt8) (groups : List (List Alternate)) (i j : UInt8) :
    Except UsbError InterfaceLocation :=
  match groups[i.toNat]? with
  | none => .error (.invalidDescriptorIndex .interface i)
  | some g =>
    match g[j.toNat]? with
    | none => .error (.invalidDescriptorIndex .alternateSetting j)
    | some al => .ok ⟨config, i, j, al.descriptor⟩

/-- The endpoint that an index leads to, or that the index is missing. -/
def endpointAt (l : InterfaceLocation) (endpoints : List EndpointDescriptor) (n : UInt8) :
    Except UsbError EndpointView :=
  match endpoints[n.toNat]? with
  | none => .error (.invalidDescriptorIndex .endpoint n)
  | some e => .ok ⟨l, n, e⟩

theorem locationAt_eq_ok_iff {config : UInt8} {groups : List (List Alternate)} {i j : UInt8}
    {l : InterfaceLocation} :
    locationAt config groups i j = .ok l ↔ ∃ g al, groups[i.toNat]? = some g ∧
      g[j.toNat]? = some al ∧ l = ⟨config, i, j, al.descriptor⟩ := by
  unfold locationAt
  cases hg : groups[i.toNat]? with
  | none => simp
  | some g =>
    cases hal : g[j.toNat]? with
    | none => simp [hal]
    | some al => simp [hal, eq_comm]

/-! The places of a configuration. -/

section

variable {config : UInt8} {l : InterfaceLocation}

theorem mem_alternatesFrom {i j : Nat} {g : List Alternate} :
    l ∈ alternatesFrom config i j g ↔ ∃ (n : Nat) (al : Alternate), g[n]? = some al ∧
      l = ⟨config, i.toUInt8, (j + n).toUInt8, al.descriptor⟩ := by
  induction g generalizing j with
  | nil => simp [alternatesFrom]
  | cons a rest ih =>
    rw [alternatesFrom, List.mem_cons, ih]
    constructor
    · rintro (rfl | ⟨n, al, hal, rfl⟩)
      · exact ⟨0, a, rfl, rfl⟩
      · exact ⟨n + 1, al, hal, by rw [Nat.add_assoc, Nat.add_comm 1 n]⟩
    · rintro ⟨n, al, hal, rfl⟩
      cases n with
      | zero =>
        cases hal
        exact .inl rfl
      | succ n => exact .inr ⟨n, al, hal, by rw [Nat.add_assoc, Nat.add_comm 1 n]⟩

theorem mem_interfacesFrom {i : Nat} {groups : List (List Alternate)} :
    l ∈ interfacesFrom config i groups ↔ ∃ (m : Nat) (g : List Alternate) (n : Nat)
      (al : Alternate), groups[m]? = some g ∧ g[n]? = some al ∧
        l = ⟨config, (i + m).toUInt8, n.toUInt8, al.descriptor⟩ := by
  induction groups generalizing i with
  | nil => simp [interfacesFrom]
  | cons first rest ih =>
    rw [interfacesFrom, List.mem_append, mem_alternatesFrom, ih]
    constructor
    · rintro (⟨n, al, hal, rfl⟩ | ⟨m, g, n, al, hg, hal, rfl⟩)
      · exact ⟨0, first, n, al, rfl, hal, by rw [Nat.zero_add, Nat.add_zero]⟩
      · exact ⟨m + 1, g, n, al, hg, hal, by rw [Nat.add_assoc, Nat.add_comm 1 m]⟩
    · rintro ⟨m, g, n, al, hg, hal, rfl⟩
      cases m with
      | zero =>
        cases hg
        exact .inl ⟨n, al, hal, by rw [Nat.zero_add, Nat.add_zero]⟩
      | succ m => exact .inr ⟨m, g, n, al, hg, hal, by rw [Nat.add_assoc, Nat.add_comm 1 m]⟩

/-- Where all indices fit in a byte, the places are those that indices lead to. -/
theorem locationAt_eq_ok_iff_mem {groups : List (List Alternate)} (hcount : groups.length ≤ 255)
    (hsize : ∀ g ∈ groups, g.length ≤ 256) (i j : UInt8) :
    locationAt config groups i j = .ok l ↔
      l ∈ interfacesFrom config 0 groups ∧ l.index = i ∧ l.alternateIndex = j := by
  rw [locationAt_eq_ok_iff, mem_interfacesFrom]
  constructor
  · rintro ⟨g, al, hg, hal, rfl⟩
    refine ⟨⟨i.toNat, g, j.toNat, al, hg, hal, ?_⟩, rfl, rfl⟩
    rw [Nat.zero_add, toUInt8_toNat, toUInt8_toNat]
  · rintro ⟨⟨m, g, n, al, hg, hal, rfl⟩, rfl, rfl⟩
    obtain ⟨hm, hget⟩ := List.getElem?_eq_some_iff.1 hg
    obtain ⟨hn, -⟩ := List.getElem?_eq_some_iff.1 hal
    have hlen : g.length ≤ 256 := hsize g (hget ▸ List.getElem_mem hm)
    refine ⟨g, al, ?_, ?_, rfl⟩
    · rw [toNat_toUInt8 (by omega), Nat.zero_add]
      exact hg
    · rw [toNat_toUInt8 (by omega)]
      exact hal

theorem descriptor_alternatesFrom (i j : Nat) (g : List Alternate) :
    (alternatesFrom config i j g).map (·.descriptor) = g.map (·.descriptor) := by
  induction g generalizing j with
  | nil => rfl
  | cons a rest ih =>
    rw [alternatesFrom, List.map_cons, List.map_cons, ih]

/-- The places repeat the descriptors of all alternates, interface after interface. -/
theorem descriptor_interfacesFrom (i : Nat) (groups : List (List Alternate)) :
    (interfacesFrom config i groups).map (·.descriptor) = groups.flatten.map (·.descriptor) := by
  induction groups generalizing i with
  | nil => rfl
  | cons g rest ih =>
    rw [interfacesFrom, List.map_append, List.flatten_cons, List.map_append,
      descriptor_alternatesFrom, ih]

end

/-! Iterations. -/

section

variable {id : DeviceId} {c : Bus} {d : DeviceState} {config : UInt8} {k : Configuration}

/-- An iteration gives all that is ahead, and no failures. -/
theorem gives_forEachUpTo (hf : c.failures = ∅) (hd : c.device? id = some d)
    (hk : d.spec.configurations[config.toNat]? = some k) (hcount : k.interfaces.length ≤ 255)
    (hne : ∀ g ∈ k.interfaces, g ≠ []) (hsize : ∀ g ∈ k.interfaces, g.length ≤ 256)
    {w : InterfaceWalk} {l : List InterfaceLocation} (h : Ahead id config k.interfaces w l)
    {fuel : Nat} (hfuel : l.length ≤ fuel) : Gives (AtCore c)
      (InterfaceWalk.cursor.forEachUpTo (fun item => pure item) fuel w) (.ok (l.map .ok))
      (AtCore c) := by
  induction fuel generalizing w l with
  | zero =>
    rw [List.eq_nil_of_length_eq_zero (Nat.le_zero.1 hfuel)]
    exact gives_pure _
  | succ fuel ih =>
    obtain ⟨v, hv, hnext⟩ := gives_next hf hd hk hcount hne hsize h
    unfold Cursor.forEachUpTo
    apply Gives.bind hnext
    cases l with
    | nil => exact gives_pure _
    | cons x rest =>
      have hrest := ih hv (Nat.le_of_succ_le_succ hfuel)
      apply (gives_pure _).bind
      exact hrest.bind (gives_pure _)

end

theorem gives_forEach_ofIndex_from {σ α : Type} {P : σ → Prop} (items : List α) (start : Nat)
    {load : Nat → Action σ α}
    (hload : ∀ i x, items[i]? = some x → Gives P (load (start + i)) (.ok x) P) {fuel : Nat}
    (hfuel : items.length ≤ fuel) :
    Gives P ((Cursor.ofIndex (start + items.length) load).forEachUpTo (fun item => pure item) fuel
      start) (.ok (items.map .ok)) P := by
  induction fuel generalizing items start with
  | zero =>
    rw [List.eq_nil_of_length_eq_zero (Nat.le_zero.1 hfuel)]
    exact gives_pure _
  | succ fuel ih =>
    unfold Cursor.forEachUpTo
    cases items with
    | nil =>
      have hnext : Gives P ((Cursor.ofIndex (start + ([] : List α).length) load).next start)
          (.ok none) P := by
        simp only [Cursor.ofIndex, List.length_nil, Nat.add_zero, Nat.lt_irrefl, if_false]
        exact gives_pure none
      exact hnext.bind (gives_pure _)
    | cons x rest =>
      have hlength : start + (x :: rest).length = start + 1 + rest.length := by
        rw [List.length_cons]
        omega
      have hnext : Gives P ((Cursor.ofIndex (start + (x :: rest).length) load).next start)
          (.ok (some (.ok x, start + 1))) P := by
        have hlt : start < start + (x :: rest).length := by simp
        simp only [Cursor.ofIndex, if_pos hlt]
        exact (hload 0 x rfl).attempted.map fun item => some (item, start + 1)
      have hload' : ∀ i y, rest[i]? = some y → Gives P (load (start + 1 + i)) (.ok y) P := by
        intro i y hy
        rw [Nat.add_assoc, Nat.add_comm 1 i]
        exact hload (i + 1) y hy
      have hrest := ih rest (start + 1) hload' (Nat.le_of_succ_le_succ hfuel)
      rw [← hlength] at hrest
      apply hnext.bind
      apply (gives_pure _).bind
      exact hrest.bind (gives_pure _)

/-- What a bus tells of a configuration is what its interfaces are. -/
structure ReadsAs (a : Attachment Bus) (view : ConfigurationView)
    (groups : List (List Alternate)) : Prop where
  /-- The iteration over all alternates ends by itself. -/
  interfaces : ∀ fuel, (interfacesFrom view.index 0 groups).length ≤ fuel →
    outcome (onBus (InterfaceWalk.cursor.forEachUpTo (fun item => pure item) fuel
      (view.walk a.device.id))) a = .ok ((interfacesFrom view.index 0 groups).map .ok)
  /-- The steps that it is given are enough. -/
  items : outcome (onBus (InterfaceWalk.cursor.items (view.walk a.device.id))) a =
    .ok ((interfacesFrom view.index 0 groups).map .ok)
  interface : ∀ i j, outcome (view.interface i j) a = locationAt view.index groups i j
  /-- An index leads to the item of the iteration that has it. -/
  agree : ∀ i j l, outcome (view.interface i j) a = .ok l ↔
    l ∈ interfacesFrom view.index 0 groups ∧ l.index = i ∧ l.alternateIndex = j
  endpoints : ∀ i j g al, groups[i.toNat]? = some g → g[j.toNat]? = some al →
    let l : InterfaceView := ⟨view.index, i, j, al.descriptor⟩
    outcome (onBus ((l.endpoints a.device.id).items 0)) a =
        .ok ((al.endpoints.mapIdx fun n e => ⟨l, n.toUInt8, e⟩).map .ok) ∧
      ∀ n, outcome (l.endpoint n) a = endpointAt l al.endpoints n

section

variable {a : Attachment Bus} {d : DeviceState} {config : UInt8} {k : Configuration}
  (hf : a.bus.failures = ∅) (hd : a.bus.device? a.device.id = some d)
  (hk : d.spec.configurations[config.toNat]? = some k) (hregular : k.Regular)
  (hcount : k.interfaces.length ≤ 255)

theorem outcome_onBus_of_gives {α : Type} {act : Action Bus α} {r : Except UsbError α}
    (h : Gives (AtCore a.bus) act r (AtCore a.bus)) : outcome (onBus act) a = r := by
  rw [outcome_onBus]
  exact (h a.bus rfl).1

include hf hd hk

theorem outcome_interface (hregular : k.Regular) (hcount : k.interfaces.length ≤ 255)
    (i j : UInt8) :
    outcome ((⟨config, k.descriptor⟩ : ConfigurationView).interface i j) a =
      locationAt config k.interfaces i j := by
  have hbyte : k.descriptor.numInterfaces ≤ i ↔ k.interfaces.length ≤ i.toNat := by
    rw [hregular.numInterfaces, UInt8.le_iff_toNat_le, toNat_toUInt8 (by omega)]
  have hread := outcome_onBus_of_gives (gives_interfaceDescriptor hf hd i j config)
  rw [alternateOf_eq hk] at hread
  unfold ConfigurationView.interface
  by_cases hi : k.interfaces.length ≤ i.toNat
  · rw [if_pos (hbyte.2 hi), locationAt, List.getElem?_eq_none hi]
    rfl
  · rw [if_neg (mt hbyte.1 hi), outcome_congr (getDevice_bind _ _), outcome_bind_pure, hread,
      locationAt]
    cases k.interfaces[i.toNat]? with
    | none => rfl
    | some g =>
      dsimp only
      cases g[j.toNat]? <;> rfl

variable {i j : UInt8} {g : List Alternate} {al : Alternate} (hg : k.interfaces[i.toNat]? = some g)
  (hal : g[j.toNat]? = some al) (hnumber : al.descriptor.numEndpoints.toNat = al.endpoints.length)

include hg hal hnumber

theorem gives_loadEndpoint {n : Nat} {e : EndpointDescriptor} (he : al.endpoints[n]? = some e) :
    Gives (AtCore a.bus)
      (Backend.endpointDescriptor a.device.id n.toUInt8 i j config : Action Bus _) (.ok e)
      (AtCore a.bus) := by
  have hn : n < 256 := by
    obtain ⟨hlt, -⟩ := List.getElem?_eq_some_iff.1 he
    have hbyte := UInt8.toNat_lt al.descriptor.numEndpoints
    omega
  have hread := gives_endpointDescriptor hf hd n.toUInt8 i j config
  rw [Bus.endpointOf, alternateOf_eq hk, hg] at hread
  simp only [hal, Except.bind, toNat_toUInt8 hn, he] at hread
  exact hread

theorem outcome_endpoints :
    let l : InterfaceView := ⟨config, i, j, al.descriptor⟩
    outcome (onBus ((l.endpoints a.device.id).items 0)) a =
      .ok ((al.endpoints.mapIdx fun n e => ⟨l, n.toUInt8, e⟩).map .ok) := by
  intro l
  let views : List EndpointView := al.endpoints.mapIdx fun n e => ⟨l, n.toUInt8, e⟩
  let load : Nat → Action Bus EndpointView := fun n =>
    Backend.endpointDescriptor a.device.id n.toUInt8 i j config >>= fun e => pure ⟨l, n.toUInt8, e⟩
  have hload : ∀ n v, views[n]? = some v →
      Gives (AtCore a.bus) (load (0 + n)) (.ok v) (AtCore a.bus) := by
    intro n v hv
    rw [List.getElem?_mapIdx] at hv
    obtain ⟨e, he, rfl⟩ := Option.map_eq_some_iff.1 hv
    rw [Nat.zero_add]
    exact (gives_loadEndpoint hf hd hk hg hal hnumber he).bind (gives_pure _)
  have hall := outcome_onBus_of_gives (gives_forEach_ofIndex_from views 0 hload (Nat.le_refl _))
  rw [List.length_mapIdx, Nat.zero_add, ← hnumber] at hall
  exact hall

theorem outcome_endpoint (n : UInt8) :
    let l : InterfaceView := ⟨config, i, j, al.descriptor⟩
    outcome (l.endpoint n) a = endpointAt l al.endpoints n := by
  intro l
  have hbyte : al.descriptor.numEndpoints ≤ n ↔ al.endpoints.length ≤ n.toNat := by
    rw [UInt8.le_iff_toNat_le, hnumber]
  unfold InterfaceLocation.endpoint
  by_cases hn : al.endpoints.length ≤ n.toNat
  · rw [if_pos (hbyte.2 hn), endpointAt, List.getElem?_eq_none hn]
    rfl
  · have he : al.endpoints[n.toNat]? = some al.endpoints[n.toNat] :=
      List.getElem?_eq_getElem (Nat.lt_of_not_le hn)
    have hload := outcome_onBus_of_gives (gives_loadEndpoint hf hd hk hg hal hnumber he)
    rw [toUInt8_toNat] at hload
    rw [if_neg (mt hbyte.1 hn), outcome_congr (getDevice_bind _ _), outcome_bind_pure, hload,
      endpointAt, he]
    rfl

end

/-- A bus on which nothing is made to fail tells of a configuration what it is. -/
theorem readsAs_interfaces {a : Attachment Bus} {d : DeviceState} {config : UInt8}
    {k : Configuration} (hf : a.bus.failures = ∅) (hd : a.bus.device? a.device.id = some d)
    (hk : d.spec.configurations[config.toNat]? = some k) (hregular : k.Regular)
    (hcount : k.interfaces.length ≤ 255) (hsize : ∀ g ∈ k.interfaces, g.length ≤ 256)
    (hendpoints : ∀ g ∈ k.interfaces, ∀ al ∈ g, al.endpoints.length ≤ 255) :
    ReadsAs a ⟨config, k.descriptor⟩ k.interfaces := by
  obtain ⟨hahead, hbound⟩ := ahead_start a.device.id config hcount hregular.nonempty hsize
  rw [← wholeWalk_eq _ _ hregular] at hahead hbound
  have hall : ∀ fuel, (interfacesFrom config 0 k.interfaces).length ≤ fuel →
      outcome (onBus (InterfaceWalk.cursor.forEachUpTo (fun item => pure item) fuel
        (wholeWalk a.device.id config k))) a =
          .ok ((interfacesFrom config 0 k.interfaces).map .ok) := fun fuel hfuel =>
    outcome_onBus_of_gives
      (gives_forEachUpTo hf hd hk hcount hregular.nonempty hsize hahead hfuel)
  have hindex := outcome_interface hf hd hk hregular hcount
  have hcounted : ∀ {i j : Nat} {g : List Alternate} {al : Alternate}, k.interfaces[i]? = some g →
      g[j]? = some al → al.descriptor.numEndpoints.toNat = al.endpoints.length := by
    intro i j g al hg hal
    have hgmem := List.mem_of_getElem? hg
    have hmem := List.mem_of_getElem? hal
    have hlen := hendpoints g hgmem al hmem
    rw [hregular.numEndpoints g hgmem al hmem, toNat_toUInt8 (by omega)]
  constructor
  case interfaces => exact hall
  case items => exact hall _ hbound
  case interface => exact hindex
  case agree =>
    intro i j l
    rw [hindex]
    exact locationAt_eq_ok_iff_mem hcount hsize i j
  case endpoints =>
    intro i j g al hg hal
    constructor
    · exact outcome_endpoints hf hd hk hg hal (hcounted hg hal)
    · exact outcome_endpoint hf hd hk hg hal (hcounted hg hal)

/-- On a bus where nothing is made to fail, a configuration that alternates were added to counts
what was added. The iteration over it and the access by index both give the alternates grouped by
number, the numbers in the order of their first appearance and the alternates of each in the order
of their addition, and all of them once. The same goes for the endpoints of each of them. -/
theorem tree_read_as_added {spec : Device} (hspec : spec.Assembled)
    (hconfigurations : spec.configurations.length ≤ 255) {a : Attachment Bus} {d : DeviceState}
    (hf : a.bus.failures = ∅) (hd : a.bus.device? a.device.id = some d) (hdspec : d.spec = spec)
    (hdevice : a.device.descriptor = spec.descriptor) {descriptor : ConfigurationDescriptor}
    {adds : List Addition} {config : UInt8}
    (hk : spec.configurations[config.toNat]? = some (.ofAdditions descriptor adds))
    (hadds : adds ≠ []) (hnumbers : (Configuration.numbers adds).length ≤ 255)
    (halternates : ∀ n, (adds.filter fun x => x.number == n).length ≤ 256)
    (hendpoints : ∀ x ∈ adds, x.2.length ≤ 255)
    (htotal : 9 + (adds.map Addition.wireLength).sum ≤ 65535) :
    let k := Configuration.ofAdditions descriptor adds
    let groups := Configuration.groups adds
    let view : ConfigurationView := ⟨config, k.descriptor⟩
    (k.descriptor.totalLength.toNat = 9 + (adds.map Addition.wireLength).sum ∧
      k.descriptor.numInterfaces.toNat = (Configuration.numbers adds).length ∧
      ∀ x ∈ adds, x.alternate.descriptor.numEndpoints.toNat = x.2.length) ∧
    outcome (SerialBus.Device.configurationView config) a = .ok view ∧
    ReadsAs a view groups ∧
    (interfacesFrom config 0 groups).map (·.descriptor) = groups.flatten.map (·.descriptor) ∧
    groups.flatten.Perm (adds.map Addition.alternate) := by
  intro k groups view
  subst hdspec
  have hinterfaces : k.interfaces = groups := Configuration.interfaces_ofAdditions descriptor adds
  have hregular : k.Regular := (Configuration.assembled_ofAdditions descriptor adds).regular
  have hdescriptor : k.descriptor = _ := Configuration.descriptor_ofAdditions descriptor hadds
  have hcount : k.interfaces.length ≤ 255 := by
    rw [hinterfaces]
    simpa [groups, Configuration.groups] using hnumbers
  have hsize : ∀ g ∈ k.interfaces, g.length ≤ 256 := by
    rw [hinterfaces]
    intro g hg
    obtain ⟨n, rfl⟩ := Configuration.mem_groups hg
    rw [Configuration.alternatesOf, List.length_map]
    exact halternates n
  have hlengths : ∀ g ∈ k.interfaces, ∀ al ∈ g, al.endpoints.length ≤ 255 := by
    rw [hinterfaces]
    intro g hg al hal
    obtain ⟨n, rfl⟩ := Configuration.mem_groups hg
    obtain ⟨x, hx, rfl⟩ := List.mem_map.1 hal
    exact hendpoints x (List.mem_filter.1 hx).1
  have hreads := readsAs_interfaces hf hd hk hregular hcount hsize hlengths
  refine ⟨⟨?total, ?count, ?endpoints⟩, ?view, hinterfaces ▸ hreads, ?order, ?all⟩
  case total =>
    rw [hdescriptor]
    exact UInt16.toNat_ofNat_of_lt' (by change _ < 65536; omega)
  case count =>
    rw [hdescriptor]
    exact toNat_toUInt8 (by omega)
  case endpoints =>
    intro x hx
    have hlen := hendpoints x hx
    exact toNat_toUInt8 (by omega)
  case view =>
    obtain ⟨hlt, -⟩ := List.getElem?_eq_some_iff.1 hk
    have hcountd : ¬ a.device.descriptor.numConfigurations ≤ config := by
      rw [hdevice, hspec.regular.numConfigurations, UInt8.le_iff_toNat_le,
        toNat_toUInt8 (by omega)]
      omega
    have hread := outcome_onBus_of_gives (gives_configurationDescriptor hf hd config)
    rw [Bus.configurationOf, hk] at hread
    unfold SerialBus.Device.configurationView
    rw [outcome_congr (getDevice_bind _ _), if_neg hcountd, outcome_bind_pure, hread]
    rfl
  case order => exact descriptor_interfacesFrom 0 groups
  case all => exact Configuration.perm_groups adds

/-- Three alternates of two interfaces, those of one of them not added together. -/
theorem tree_read_as_added_interleaved :
    let adds : List Addition := [({ interfaceNumber := 5 }, [{ endpointAddress := 0x81 }]),
      ({ interfaceNumber := 3 }, []), ({ interfaceNumber := 5, alternateSetting := 1 }, [])]
    let k := Configuration.ofAdditions {} adds
    let spec := (Device.ofDescriptor {}).addConfiguration k
    let a : Attachment Bus := ⟨{ id := ⟨0⟩, descriptor := spec.descriptor }, .ofDevices [spec]⟩
    let view : ConfigurationView := ⟨0, k.descriptor⟩
    outcome (SerialBus.Device.configurationView 0) a = .ok view ∧
      k.descriptor.totalLength.toNat = 43 ∧
      outcome (onBus (InterfaceWalk.cursor.items (view.walk ⟨0⟩))) a =
        .ok [.ok ⟨0, 0, 0, { interfaceNumber := 5, numEndpoints := 1 }⟩,
          .ok ⟨0, 0, 1, { interfaceNumber := 5, alternateSetting := 1 }⟩,
          .ok ⟨0, 1, 0, { interfaceNumber := 3 }⟩] ∧
      outcome (view.interface 1 1) a = .error (.invalidDescriptorIndex .alternateSetting 1) := by
  intro adds k spec a view
  have hspec : spec.Assembled :=
    .add (.empty _) (Configuration.assembled_ofAdditions {} adds)
  have hsize : ∀ n, (adds.filter fun x => x.number == n).length ≤ 256 := fun n =>
    Nat.le_trans (List.length_filter_le _ _) (by decide)
  have hk : spec.configurations[(0 : UInt8).toNat]? = some (.ofAdditions {} adds) := rfl
  obtain ⟨⟨htotal, -⟩, hview, hreads, -⟩ := tree_read_as_added hspec (a := a) (by decide) rfl rfl rfl
    rfl hk (by simp [adds]) (by decide) hsize (by decide) (by decide)
  constructor
  · exact hview
  constructor
  · exact htotal
  constructor
  · exact hreads.items
  · exact hreads.interface 1 1

end SerialBus.Loopback
