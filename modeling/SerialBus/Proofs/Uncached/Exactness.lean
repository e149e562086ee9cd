import SerialBus.Proofs.Loopback.Working
import SerialBus.Proofs.Routing.Coherence
import SerialBus.Proofs.Uncached.Operations

/-! The caches are exact: what a device takes from them is what it would be told if it asked again,
so that it does what a device does that always asks. -/
namespace SerialBus.Uncached

open SerialBus.Action Device
open Loopback (Bus AtCore DeviceState)
open Routing

/-- The type of the endpoint that a search on an alternate of the active configuration finds. -/
def scanned : Typing where
  type? d key := (d.alternate? key.number key.alternate).bind fun al =>
    ((al.endpoints.take al.descriptor.numEndpoints.toNat).find?
      fun e => e.endpointAddress == key.address).map (·.transferType)
  congr h key := by rw [alternate?_congr h]
  counted hal he := by
    rw [hal, Option.bind_some, he]
    rfl

/-- Devices that report their configuration. They have at most 255 configurations, none of them with
the value that stands for no configuration. -/
structure Readable (spec : Loopback.Device) : Prop where
  assembled : spec.Assembled
  configurations : spec.configurations.length ≤ 255
  values : ∀ c ∈ spec.configurations, c.descriptor.configurationValue ≠ 0
  reports : spec.reportsConfiguration = true

/-- The caches of the first device are right, and the second one has none. -/
structure Paired (spec : Loopback.Device) (s t : Attachment Bus) : Prop where
  attached : Attached spec s
  coherent : Coherent scanned s
  mirrors : Mirrors spec.descriptor s t

/-! What is found where nothing is made to fail. -/

section

variable {α : Type} {a : Attachment Bus} {d : DeviceState} (hf : a.bus.failures = ∅)
  (hd : a.bus.device? a.device.id = some d)

theorem gives_onBus {act : Action Bus α} {r : Except UsbError α}
    (h : Gives (AtCore a.bus) act r (AtCore a.bus)) : Gives (Stays a) (onBus act) r (Stays a) := by
  intro s hs
  obtain ⟨ho, hafter⟩ := h s.bus hs.2
  rw [outcome_onBus, after_onBus]
  exact ⟨ho, hs.1, hafter⟩

theorem gives_getDevice : Gives (Stays a) (getDevice : DeviceAction Bus Device) (.ok a.device)
    (Stays a) := by
  intro s hs
  rw [outcome_getDevice, hs.1]
  exact ⟨rfl, hs⟩

include hf hd

theorem gives_configurationByValue (hspec : Readable d.spec)
    (hdescriptor : a.device.descriptor = d.spec.descriptor) (value : UInt8) :
    Gives (Stays a) (configurationByValue value)
      (.ok ((Loopback.numbered (·.descriptor) d.spec.configurations).find?
        fun k => k.2.configurationValue == value)) (Stays a) := by
  have hlen := hspec.configurations
  have hcount : a.device.descriptor.numConfigurations.toNat = d.spec.configurations.length := by
    rw [hdescriptor, hspec.assembled.regular.numConfigurations, Loopback.toNat_toUInt8 (by omega)]
  have hfind := Loopback.gives_findConfiguration hf hd hlen
    fun k => k.2.configurationValue == value
  unfold configurationByValue
  apply gives_getDevice.bind
  rw [hcount]
  exact gives_onBus hfind

/-- A handle reports the first configuration with the value that is active. -/
theorem gives_reported (hspec : Readable d.spec)
    (hdescriptor : a.device.descriptor = d.spec.descriptor) {h : HandleId} {held : Loopback.Handle}
    (hh : a.bus.handles.get? h = some held) (hown : held.device = a.device.id)
    {p : UInt8 × ConfigurationDescriptor} (hp : d.spec.Indexed d.activeConfiguration p) :
    Gives (Stays a) (reported h) (.ok p) (Stays a) := by
  have hread : Gives (AtCore a.bus) (Backend.configuration h : Action Bus UInt8)
      (.ok d.activeConfiguration) (AtCore a.bus) := by
    intro b hb
    have hfailures : b.failures = ∅ := hb.failures.trans hf
    have hhandle : b.handles.get? h = some held := by
      rw [hb.handles]
      exact hh
    have hdevice : b.device? held.device = some d := by
      rw [hb.device?, hown]
      exact hd
    obtain ⟨ho, hcore⟩ := Bus.configuration_works hfailures hhandle hdevice
    rw [if_pos hspec.reports] at ho
    exact ⟨ho, hcore.trans hb⟩
  -- The value of a configuration is never the one that stands for none.
  have hvalue : d.activeConfiguration ≠ 0 := by
    obtain ⟨k, hk, -, hfound⟩ := hp.read
    have hfit := List.find?_some hfound
    rw [← eq_of_beq hfit]
    exact hspec.values k (List.mem_of_getElem? hk)
  have hfind := gives_configurationByValue hf hd hspec hdescriptor d.activeConfiguration
  rw [hp.found] at hfind
  unfold reported
  apply (gives_onBus hread).bind
  dsimp only
  rw [if_neg hvalue]
  apply hfind.bind
  exact gives_pure p

theorem gives_scan {l : InterfaceLocation} {al : Loopback.Alternate}
    (hl : Bus.alternateOf d.spec l.index l.alternateIndex l.config = .ok al)
    (hcount : l.descriptor.numEndpoints.toNat ≤ al.endpoints.length) (address : UInt8) :
    Gives (Stays a) (scan a.device.id address l)
      (.ok ((Loopback.numbered (fun e => e)
        (al.endpoints.take l.descriptor.numEndpoints.toNat)).find?
          fun e => e.2.endpointAddress == address)) (Stays a) :=
  gives_onBus (Loopback.gives_findCounted hf hd hl hcount _)

end

/-- What is found with its position is what is found. -/
theorem snd_find?_numbered {α : Type} (xs : List α) (test : α → Bool) :
    ((Loopback.numbered (fun x => x) xs).find? fun p => test p.2).map Prod.snd = xs.find? test := by
  have hsnd : (Loopback.numbered (fun x => x) xs).map Prod.snd = xs := by
    apply List.ext_getElem?
    intro i
    rw [List.getElem?_map, Loopback.numbered, List.getElem?_mapIdx, Option.map_map]
    exact Option.map_id'
  have hmap := List.find?_map (p := test) (f := Prod.snd) (l := Loopback.numbered (fun x => x) xs)
  rw [hsnd] at hmap
  exact hmap.symm

section

variable {spec : Loopback.Device} {s t : Attachment Bus}

theorem Mirrors.id {descriptor : DeviceDescriptor} (h : Mirrors descriptor s t) :
    t.device.id = s.device.id := by
  rw [h.device]
  rfl

theorem Mirrors.fresh {descriptor : DeviceDescriptor} (h : Mirrors descriptor s t) :
    t.bus.failures = ∅ ∧ t.bus.device? t.device.id = s.bus.device? s.device.id := by
  constructor
  · exact h.bus.failures.trans h.failures
  · rw [h.bus.device?, h.id]

/-- What stays as it is on the one side mirrors what it mirrored before. -/
theorem Mirrors.of_stays {descriptor : DeviceDescriptor} (h : Mirrors descriptor s t)
    {e f : Attachment Bus} (hs : Stays s e) (ht : Stays t f) : Mirrors descriptor e f where
  device := by rw [hs.1, ht.1, h.device]
  bus := ht.2.trans (h.bus.trans hs.2.symm)
  descriptor := by rw [hs.1, h.descriptor]
  failures := hs.2.failures.trans h.failures

/-- What is put into a cache is not seen. -/
theorem mirrors_noted {descriptor : DeviceDescriptor} {α : Type} {f : Holdings → Holdings}
    (hf : ∀ held, (f held).bare = held.bare) (r : α) :
    Simulates (Mirrors descriptor) (modifyHeld f >>= fun _ => pure r) (pure r) := by
  intro s t h
  refine ⟨rfl, ?_, h.bus, h.descriptor, h.failures⟩
  have hbare : ({ s.device with held := f s.device.held } : Device).bare = s.device.bare := by
    unfold Device.bare
    rw [hf]
  exact h.device.trans hbare.symm

theorem mirrors_readBack {descriptor : DeviceDescriptor} :
    Simulates (Mirrors descriptor) readBack activeConfiguration := by
  rw [readBack_eq]
  refine mirrors_openHandle.bind fun h => ?_
  have hnoted : Simulates (Mirrors descriptor)
      (reported h >>= fun found => noteActive found.1 >>= fun _ => pure found)
      (reported h >>= pure) :=
    (mirrors_reported h).bind fun found => mirrors_noted (fun _ => by rfl) found
  rw [bind_pure] at hnoted
  exact hnoted

/-- The configuration with the index that is remembered, and nothing else, is asked for. -/
theorem activeConfiguration_of_some (hf : s.bus.failures = ∅) {i : UInt8}
    (hi : s.device.held.activeConfig = some i) {d : DeviceState}
    {descriptor : ConfigurationDescriptor} (hd : s.bus.device? s.device.id = some d)
    (hindexed : d.spec.Indexed d.activeConfiguration (i, descriptor)) :
    outcome Device.activeConfiguration s = .ok (i, descriptor) ∧
      Stays s (after Device.activeConfiguration s) := by
  have hcached : Device.activeConfiguration s =
      (onBus (Backend.configurationDescriptor s.device.id i : Action Bus _) >>= fun r =>
        pure (i, r)) s := by
    rw [activeConfiguration_eq, getHeld_bind, hi]
    rfl
  have hread : Gives (Stays s) (onBus (Backend.configurationDescriptor s.device.id i))
      (.ok descriptor) (Stays s) := by
    obtain ⟨k, hk, rfl, -⟩ := hindexed.read
    have hget := Loopback.gives_configurationDescriptor hf hd i
    rw [Bus.configurationOf, hk] at hget
    exact gives_onBus hget
  rw [outcome_congr hcached, after_congr hcached]
  exact (hread.map fun r => (i, r)) s ⟨rfl, rfl⟩

variable (hspec : Readable spec) (hp : Paired spec s t)

include hspec hp

/-- The other device has the same handle, which reports the configuration that is remembered. -/
theorem activeConfiguration_of_reported {h : HandleId} (hh : s.device.held.handle = some h)
    {d : DeviceState} (hd : s.bus.device? s.device.id = some d)
    {p : UInt8 × ConfigurationDescriptor} (hindexed : d.spec.Indexed d.activeConfiguration p) :
    outcome activeConfiguration t = .ok p ∧ Stays t (after activeConfiguration t) := by
  have hmirrors := hp.mirrors
  obtain ⟨hfailures, hdevice⟩ := hmirrors.fresh
  obtain ⟨d', hd', rfl⟩ := hp.attached.state
  cases hd.symm.trans hd'
  obtain ⟨held, hget, hown⟩ := hp.attached.opened h hh
  have hopened : openHandle t = .ok h t := by
    apply openHandle_of_some
    rw [hmirrors.device]
    exact hh
  have hdescriptor : t.device.descriptor = d.spec.descriptor := by
    rw [hmirrors.device]
    exact hmirrors.descriptor
  have hhandle : t.bus.handles.get? h = some held := by
    rw [hmirrors.bus.handles]
    exact hget
  have hreported := gives_reported hfailures (hdevice.trans hd) hspec hdescriptor hhandle
    (hown.trans hmirrors.id.symm) hindexed
  obtain ⟨ho, hafter⟩ := eq_ok_iff.1 hopened
  unfold activeConfiguration
  rw [outcome_bind_ok _ ho, after_bind_ok _ ho, hafter]
  exact hreported t ⟨rfl, rfl⟩

/-- What is remembered of the active configuration is what would be reported. -/
theorem simulatesAt_activeConfiguration : SimulatesAt (Mirrors spec.descriptor)
    Device.activeConfiguration activeConfiguration s t := by
  have hmirrors := hp.mirrors
  cases hi : s.device.held.activeConfig with
  | none =>
    have hback : Device.activeConfiguration s = (readBack s : _) := by
      rw [activeConfiguration_eq, getHeld_bind, hi]
    unfold SimulatesAt
    rw [outcome_congr hback, after_congr hback]
    exact mirrors_readBack s t hmirrors
  | some i =>
    obtain ⟨d, descriptor, hd, hindexed⟩ := hp.attached.active i hi
    obtain ⟨d', hd', rfl⟩ := hp.attached.state
    cases hd.symm.trans hd'
    have hopen : s.device.held.handle.isSome := hp.attached.anchored (by rw [hi]; rfl)
    obtain ⟨h, hh⟩ := Option.isSome_iff_exists.1 hopen
    obtain ⟨hos, hafters⟩ := activeConfiguration_of_some hmirrors.failures hi hd hindexed
    obtain ⟨hot, haftert⟩ := activeConfiguration_of_reported hspec hp hh hd hindexed
    exact ⟨hos.trans hot.symm, hmirrors.of_stays hafters haftert⟩

theorem simulatesAt_findInterface (target : InterfaceTarget) :
    SimulatesAt (Mirrors spec.descriptor) (Device.findInterface target) (findInterface target)
      s t := by
  rw [findInterface_eq]
  exact (simulatesAt_activeConfiguration hspec hp).followed fun p =>
    mirrors_findTarget target p.1 p.2.numInterfaces

theorem paired_findInterface (target : InterfaceTarget) :
    Paired spec (after (Device.findInterface target) s) (after (findInterface target) t) := by
  obtain ⟨hattached, hstill⟩ := still_findInterface target s hp.attached
  obtain ⟨-, hmirrors⟩ := simulatesAt_findInterface hspec hp target
  exact ⟨hattached, hstill.coherent_iff.2 hp.coherent, hmirrors⟩

/-- The type that is remembered of an endpoint is the one that a search finds. -/
theorem scan_of_cached {c : Loopback.Configuration}
    (hcurrent : current? s = some c) {config : UInt8}
    (hindex : spec.configurations[config.toNat]? = some c) {l : InterfaceLocation}
    (hl : Placed spec config l) {address : UInt8} {kind : TransferType}
    (hk : s.device.held.endpointTypes.get?
      ⟨address, l.descriptor.interfaceNumber, l.descriptor.alternateSetting⟩ = some kind) :
    ∃ i e, e.transferType = kind ∧
      Gives (Stays t) (scan t.device.id address l) (.ok (some (i, e))) (Stays t) := by
  have hmirrors := hp.mirrors
  obtain ⟨c', al, hc', hplace, hfirst⟩ := hl
  cases hindex.symm.trans hc'
  obtain ⟨d, hd, rfl⟩ := hp.attached.state
  have htype := hp.coherent _ kind hk
  rw [Typing.of, hd, Option.bind_some] at htype
  have halternate : d.alternate? l.descriptor.interfaceNumber l.descriptor.alternateSetting =
      some al := by
    rw [current?, hd, Option.bind_some] at hcurrent
    rw [DeviceState.alternate?, hcurrent]
    exact hfirst
  change Option.bind (d.alternate? _ _) _ = _ at htype
  rw [halternate, Option.bind_some, ← hplace.descriptor] at htype
  obtain ⟨e, he, rfl⟩ := Option.map_eq_some_iff.1 htype
  -- As many endpoints as are counted are there.
  have hcount : l.descriptor.numEndpoints.toNat ≤ al.endpoints.length := by
    obtain ⟨g, hg, hmem⟩ := List.mem_flatten.1 (List.mem_of_find?_eq_some hfirst)
    have hregular := hspec.assembled.regular.configurations c (List.mem_of_getElem? hindex)
    rw [hplace.descriptor, hregular.numEndpoints g hg al hmem]
    exact Nat.mod_le _ _
  obtain ⟨hfailures, hdevice⟩ := hmirrors.fresh
  have hscan := gives_scan hfailures (hdevice.trans hd) hplace.alternate hcount address
  have hsnd := snd_find?_numbered (al.endpoints.take l.descriptor.numEndpoints.toNat)
    fun e => e.endpointAddress == address
  obtain ⟨p, hp, rfl⟩ := Option.map_eq_some_iff.1 (hsnd.trans he)
  rw [hp] at hscan
  exact ⟨p.1, p.2, rfl, hscan⟩

theorem simulatesAt_endpointType {c : Loopback.Configuration}
    (hcurrent : current? s = some c) {config : UInt8}
    (hindex : spec.configurations[config.toNat]? = some c) {l : InterfaceLocation}
    (hl : Placed spec config l) (address : UInt8) :
    SimulatesAt (Mirrors spec.descriptor) (Device.endpointType address l)
      (endpointType address l) s t := by
  have hmirrors := hp.mirrors
  have hfresh : endpointType address l t = (scan t.device.id address l >>= fun found =>
      found.elim (throw (.invalidEndpoint address)) fun p => pure p.2.transferType) t := by
    unfold endpointType
    rw [getDevice_bind]
    apply congrArg fun rest => (scan t.device.id address l >>= rest) t
    funext found
    cases found <;> rfl
  unfold SimulatesAt
  rw [outcome_congr hfresh, after_congr hfresh]
  cases hk : s.device.held.endpointTypes.get?
      ⟨address, l.descriptor.interfaceNumber, l.descriptor.alternateSetting⟩ with
  | some kind =>
    have hcached : Device.endpointType address l s = .ok kind s := by
      rw [Device.endpointType, getHeld_bind, hk]
      rfl
    obtain ⟨i, e, rfl, hscan⟩ := scan_of_cached hspec hp hcurrent hindex hl hk
    obtain ⟨ho, hafter⟩ := hscan t ⟨rfl, rfl⟩
    obtain ⟨hos, hafters⟩ := eq_ok_iff.1 hcached
    rw [outcome_bind_ok _ ho, after_bind_ok _ ho, hos, hafters]
    exact ⟨rfl, hmirrors.of_stays ⟨rfl, rfl⟩ hafter⟩
  | none =>
    have hparts := endpointType_of_none hk
    rw [outcome_congr hparts, after_congr hparts, hmirrors.id]
    have hscan : Simulates (Mirrors spec.descriptor) (scan s.device.id address l)
        (scan s.device.id address l) := mirrors_findEndpoint s.device.id l _
    refine hscan.bind (fun found => ?_) s t hmirrors
    cases found with
    | none => exact simulates_throw _
    | some p => exact mirrors_noted (fun _ => by rfl) p.2.transferType

end

end SerialBus.Uncached
