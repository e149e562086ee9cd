import SerialBus.Proofs.Device.Parts
import SerialBus.Proofs.Loopback.Places
import SerialBus.Proofs.Walk.Counters

/-! What the searches through descriptors find where anything may be made to fail. A search that
ends well has come by all that stands before what it found. -/
namespace SerialBus.Loopback

open SerialBus.Action

/-! Searches by position. -/

section

variable {σ α β : Type} {P : σ → Prop}

theorem meets_find_ofIndex (count : Nat) {load : Nat → Action σ α} {R : Nat → α → Prop}
    (hload : ∀ i, Meets P (load i) (R i)) (test : α → Bool) (start : Nat) :
    Meets P ((Cursor.ofIndex count load).find test start) fun r => ∀ a, r = some a →
      ∃ i, start ≤ i ∧ i < count ∧ R i a ∧ test a = true ∧
        ∀ j, start ≤ j → j < i → ∃ b, R j b ∧ test b = false := by
  unfold Cursor.find
  generalize (Cursor.ofIndex count load).bound start = fuel
  induction fuel generalizing start with
  | zero => exact meets_pure nofun
  | succ fuel ih =>
    have hnext : Meets P ((Cursor.ofIndex count load).next start) fun item => ∀ a p,
        item = some (.ok a, p) → start < count ∧ R start a ∧ p = start + 1 := by
      change Meets P (if start < count then _ else _) _
      by_cases hlt : start < count
      · rw [if_pos hlt]
        refine (hload start).attempted.bind fun r hr => meets_pure fun a p heq => ?_
        cases heq
        exact ⟨hlt, hr a rfl, rfl⟩
      · rw [if_neg hlt]
        exact meets_pure nofun
    unfold Cursor.findUpTo
    apply hnext.bind
    intro item hitem
    rcases item with _ | ⟨e | a, p⟩
    case none => exact meets_pure nofun
    case some.error => exact meets_throw e
    case some.ok =>
      obtain ⟨hlt, ha, rfl⟩ := hitem a p rfl
      dsimp only
      cases htest : test a with
      | true =>
        refine meets_pure fun b hb => ?_
        cases hb
        exact ⟨start, Nat.le_refl start, hlt, ha, htest, fun j hj hlt => by omega⟩
      | false =>
        have hrest := ih (start + 1)
        intro s hs
        obtain ⟨hafter, hfound⟩ := hrest s hs
        refine ⟨hafter, fun r hr b hb => ?_⟩
        obtain ⟨i, hi, hcount, hb, htestb, hbefore⟩ := hfound r hr b hb
        refine ⟨i, by omega, hcount, hb, htestb, fun j hj hlt => ?_⟩
        by_cases hj' : j = start
        · subst hj'
          exact ⟨a, ha, htest⟩
        · exact hbefore j (by omega) hlt

/-- The first member of a list with the property. -/
theorem find?_of_first {xs : List α} {test : α → Bool} {i : Nat} {x : α} (hx : xs[i]? = some x)
    (htest : test x = true) (hbefore : ∀ j < i, ∃ y, xs[j]? = some y ∧ test y = false) :
    xs.find? test = some x := by
  obtain ⟨hlt, hget⟩ := List.getElem?_eq_some_iff.1 hx
  rw [List.find?_eq_some_iff_getElem]
  refine ⟨htest, i, hlt, hget, fun j hj => ?_⟩
  obtain ⟨y, hy, hfalse⟩ := hbefore j hj
  obtain ⟨hlt', hget'⟩ := List.getElem?_eq_some_iff.1 hy
  rw [hget', hfalse]
  rfl

/-- A search by position through what is read of a list finds its first fit member. -/
theorem meets_find_list (xs : List α) (count : Nat) (f : Nat → α → β) {load : Nat → Action σ β}
    (hload : ∀ i, Meets P (load i) fun b => i < count → ∃ x, xs[i]? = some x ∧ b = f i x)
    (test : β → Bool) (wanted : α → Bool) (htest : ∀ i x, test (f i x) = wanted x) :
    Meets P ((Cursor.ofIndex count load).find test 0) fun r => ∀ b, r = some b →
      ∃ i x, i < count ∧ xs[i]? = some x ∧ b = f i x ∧ wanted x = true ∧
        ∀ j < i, ∃ y, xs[j]? = some y ∧ wanted y = false := by
  intro s hs
  obtain ⟨hafter, hfound⟩ := meets_find_ofIndex count hload test 0 s hs
  refine ⟨hafter, fun r hr b hb => ?_⟩
  obtain ⟨i, -, hcount, hread, hfit, hbefore⟩ := hfound r hr b hb
  obtain ⟨x, hx, rfl⟩ := hread hcount
  refine ⟨i, x, hcount, hx, rfl, (htest i x).symm.trans hfit, fun j hj => ?_⟩
  obtain ⟨c, hread, hunfit⟩ := hbefore j (Nat.zero_le j) hj
  obtain ⟨y, hy, rfl⟩ := hread (by omega)
  exact ⟨y, hy, (htest j y).symm.trans hunfit⟩

end

/-- What is found among the members of a list is found among them with their positions. -/
theorem find?_numbered_of_first {α β : Type} {f : α → β} {xs : List α} {test : UInt8 × β → Bool}
    {wanted : α → Bool} (hwanted : ∀ i x, test (i, f x) = wanted x) {i : Nat} {x : α}
    (hx : xs[i]? = some x) (hfit : wanted x = true)
    (hbefore : ∀ j < i, ∃ y, xs[j]? = some y ∧ wanted y = false) :
    (numbered f xs).find? test = some (i.toUInt8, f x) := by
  have hget : ∀ {j : Nat} {y : α}, xs[j]? = some y →
      (numbered f xs)[j]? = some (j.toUInt8, f y) := by
    intro j y hy
    rw [numbered, List.getElem?_mapIdx, hy]
    rfl
  refine find?_of_first (hget hx) ((hwanted _ x).trans hfit) fun j hj => ?_
  obtain ⟨y, hy, hunfit⟩ := hbefore j hj
  exact ⟨_, hget hy, (hwanted _ y).trans hunfit⟩

/-- The pair is the first configuration with the value: its index, and its descriptor. -/
structure Device.Indexed (spec : Device) (value : UInt8) (p : UInt8 × ConfigurationDescriptor) :
    Prop where
  read : ∃ k, spec.configurations[p.1.toNat]? = some k ∧ p.2 = k.descriptor ∧
    spec.configurationByValue? value = some k
  found : (numbered (·.descriptor) spec.configurations).find?
    (fun k => k.2.configurationValue == value) = some p

theorem indexed_of_first {spec : Device} {value : UInt8} {i : Nat} {k : Configuration}
    (hk : spec.configurations[i]? = some k) (hi : i < 256)
    (hfit : (k.descriptor.configurationValue == value) = true)
    (hbefore : ∀ j < i, ∃ y, spec.configurations[j]? = some y ∧
      (y.descriptor.configurationValue == value) = false) :
    spec.Indexed value (i.toUInt8, k.descriptor) := by
  constructor
  · refine ⟨k, ?_, rfl, ?_⟩
    · rw [toNat_toUInt8 hi]
      exact hk
    · exact find?_of_first hk hfit hbefore
  · exact find?_numbered_of_first (fun _ _ => rfl) hk hfit hbefore

/-! What is read from a device, if anything is. -/

section

variable {id : DeviceId} {c : Bus} {d : DeviceState} (hd : c.device? id = some d)

/-- An operation that keeps the core is known by its results. -/
theorem meets_of_core {α : Type} {act : Action Bus α} {R : α → Prop}
    (hc : ∀ b, (after act b).core = b.core)
    (ho : ∀ b a, AtCore c b → outcome act b = .ok a → R a) : Meets (AtCore c) act R :=
  fun b hb => ⟨(hc b).trans hb, fun a => ho b a hb⟩

include hd

/-- What is served from a device is served from that device. -/
private theorem answer_of_served {α : Type} {m : Method} {answer : DeviceState → Bus.Answer α}
    {b : Bus} {a : α} (hb : AtCore c b)
    (ho : outcome (Bus.serve m none (Bus.withDevice id answer)) b = .ok a) :
    (answer d).map Prod.fst = .ok a := by
  rw [Bus.outcome_serve, Bus.withDevice, hb.device?, hd] at ho
  cases hf : b.failures.get? m with
  | some kind =>
    rw [hf] at ho
    cases ho
  | none =>
    rw [hf] at ho
    exact ho

theorem meets_configurationDescriptor (config : UInt8) :
    Meets (AtCore c) (Backend.configurationDescriptor id config : Action Bus _) fun r =>
      ∃ k, d.spec.configurations[config.toNat]? = some k ∧ r = k.descriptor := by
  refine meets_of_core (Bus.core_configurationDescriptor id config) fun b r hb ho => ?_
  change outcome (Bus.configurationDescriptor id config) b = _ at ho
  rw [Bus.configurationDescriptor_eq_serve] at ho
  have hr := answer_of_served hd hb ho
  rw [map_bind_unchanged, Bus.configurationOf] at hr
  cases hk : d.spec.configurations[config.toNat]? with
  | none =>
    rw [hk] at hr
    cases hr
  | some k =>
    rw [hk] at hr
    cases hr
    exact ⟨k, rfl, rfl⟩

theorem meets_interfaceDescriptor (interface alternate config : UInt8) :
    Meets (AtCore c)
      (Backend.interfaceDescriptor id interface alternate config : Action Bus _) fun r =>
      ∃ a, Bus.alternateOf d.spec interface alternate config = .ok a ∧ r = a.descriptor := by
  refine meets_of_core (Bus.core_interfaceDescriptor id interface alternate config)
    fun b r hb ho => ?_
  change outcome (Bus.interfaceDescriptor id interface alternate config) b = _ at ho
  rw [Bus.interfaceDescriptor_eq_serve] at ho
  have hr := answer_of_served hd hb ho
  rw [map_bind_unchanged] at hr
  obtain ⟨a, ha, hdescriptor⟩ := Bus.map_eq_ok.1 hr
  exact ⟨a, ha, hdescriptor.symm⟩

theorem meets_endpointDescriptor {interface alternate config : UInt8} {a : Alternate}
    (ha : Bus.alternateOf d.spec interface alternate config = .ok a) (endpoint : UInt8) :
    Meets (AtCore c)
      (Backend.endpointDescriptor id endpoint interface alternate config : Action Bus _) fun r =>
      a.endpoints[endpoint.toNat]? = some r := by
  refine meets_of_core (Bus.core_endpointDescriptor id endpoint interface alternate config)
    fun b r hb ho => ?_
  change outcome (Bus.endpointDescriptor id endpoint interface alternate config) b = _ at ho
  rw [Bus.endpointDescriptor_eq_serve] at ho
  have hr := (map_bind_unchanged _ fun e => e).symm.trans (answer_of_served hd hb ho)
  rw [Bus.endpointOf, ha] at hr
  cases he : a.endpoints[endpoint.toNat]? with
  | none =>
    simp only [Except.bind, he] at hr
    cases hr
  | some e =>
    simp only [Except.bind, he] at hr
    cases hr
    rfl

/-- The first configuration with the value, with its index. -/
theorem meets_findConfiguration (count : UInt8) (value : UInt8) :
    Meets (AtCore c) ((Device.configurationCursor id count.toNat).find
      (fun k => k.2.configurationValue == value) 0) fun r => ∀ p, r = some p →
        d.spec.Indexed value p := by
  have hbyte := UInt8.toNat_lt count
  have hload : ∀ i : Nat, Meets (AtCore c) (Backend.configurationDescriptor id i.toUInt8 >>=
      fun k => pure (i.toUInt8, k) : Action Bus _) fun p => i < count.toNat →
        ∃ k, d.spec.configurations[i]? = some k ∧ p = (i.toUInt8, k.descriptor) := by
    intro i
    refine (meets_configurationDescriptor hd i.toUInt8).map fun r hr hi => ?_
    obtain ⟨k, hk, rfl⟩ := hr
    rw [toNat_toUInt8 (by omega)] at hk
    exact ⟨k, hk, rfl⟩
  have hfind := meets_find_list d.spec.configurations count.toNat
    (fun i k => (i.toUInt8, k.descriptor)) hload (fun p => p.2.configurationValue == value)
    (fun k => k.descriptor.configurationValue == value) fun _ _ => rfl
  intro b hb
  obtain ⟨hafter, hfound⟩ := hfind b hb
  refine ⟨hafter, fun r hr p hp => ?_⟩
  obtain ⟨i, k, hi, hk, rfl, hfirst⟩ := hfound r hr p hp
  exact indexed_of_first hk (by omega) hfirst.1 hfirst.2

/-- The first endpoint with the address, among those that are counted. -/
theorem meets_findEndpoint {l : InterfaceLocation} {a : Alternate}
    (ha : Bus.alternateOf d.spec l.index l.alternateIndex l.config = .ok a) (address : UInt8) :
    Meets (AtCore c) ((Device.endpointCursor id l).find
      (fun e => e.2.endpointAddress == address) 0) fun r => ∀ p, r = some p →
        (a.endpoints.take l.descriptor.numEndpoints.toNat).find?
          (fun e => e.endpointAddress == address) = some p.2 := by
  have hbyte := UInt8.toNat_lt l.descriptor.numEndpoints
  have hload : ∀ i : Nat, Meets (AtCore c)
      (Backend.endpointDescriptor id i.toUInt8 l.index l.alternateIndex l.config >>=
        fun e => pure (i.toUInt8, e) : Action Bus _) fun p =>
          i < l.descriptor.numEndpoints.toNat →
            ∃ e, (a.endpoints.take l.descriptor.numEndpoints.toNat)[i]? = some e ∧
              p = (i.toUInt8, e) := by
    intro i
    refine (meets_endpointDescriptor hd ha i.toUInt8).map fun r hr hi => ?_
    rw [toNat_toUInt8 (by omega)] at hr
    rw [List.getElem?_take_of_lt hi]
    exact ⟨r, hr, rfl⟩
  have hfind := meets_find_list (a.endpoints.take l.descriptor.numEndpoints.toNat)
    l.descriptor.numEndpoints.toNat (fun i e => (i.toUInt8, e)) hload
    (fun p => p.2.endpointAddress == address) (fun e => e.endpointAddress == address)
    fun _ _ => rfl
  intro b hb
  obtain ⟨hafter, hfound⟩ := hfind b hb
  refine ⟨hafter, fun r hr p hp => ?_⟩
  obtain ⟨i, e, -, he, rfl, hfit, hbefore⟩ := hfound r hr p hp
  exact find?_of_first he hfit hbefore

end

/-! The walk through a configuration. -/

/-- What a walk is to find: an alternate that is fit, from where the walk stands, and the first such
one of its interface. -/
structure Found (spec : Device) (test : InterfaceLocation → Bool) (w : InterfaceWalk)
    (l : InterfaceLocation) : Prop where
  place : ∃ a, Located spec w.config l a
  onward : w.interface.toNat ≤ l.index.toNat
  fit : test l = true
  first : ∀ m : UInt8, m.toNat < l.alternateIndex.toNat →
    (l.index = w.interface → w.alternate.toNat ≤ m.toNat) →
    ∃ a, Bus.alternateOf spec l.index m w.config = .ok a ∧
      test ⟨w.config, l.index, m, a.descriptor⟩ = false

section

variable {spec : Device} {test : InterfaceLocation → Bool} {w : InterfaceWalk}
  {l : InterfaceLocation} {a : Alternate}

/-- The walk stands at what is fit. -/
theorem found_here (ha : Bus.alternateOf spec w.interface w.alternate w.config = .ok a)
    (hfit : test (w.locate a.descriptor) = true) : Found spec test w (w.locate a.descriptor) where
  place := ⟨a, rfl, rfl, ha⟩
  onward := Nat.le_refl _
  fit := hfit
  first _ hm hstart := absurd (hstart rfl) (Nat.not_le.2 hm)

/-- A walk that has gone to the next interface and is not over stands at its first alternate. -/
theorem nextInterface_open (h : w.nextInterface.finished = false) :
    w.nextInterface.interface.toNat = w.interface.toNat + 1 ∧ w.nextInterface.alternate = 0 := by
  have hopen : w.finished = false := by
    cases hover : w.finished with
    | false => rfl
    | true =>
      rw [InterfaceWalk.finished_nextInterface hover] at h
      cases h
  exact ⟨InterfaceWalk.interface_nextInterface hopen, InterfaceWalk.alternate_nextInterface w⟩

/-- What is found from the next interface on is found from here on. -/
theorem Found.of_nextInterface (hopen : w.nextInterface.finished = false)
    (h : Found spec test w.nextInterface l) : Found spec test w l := by
  obtain ⟨hinterface, halternate⟩ := nextInterface_open hopen
  have hconfig := (InterfaceWalk.along_nextInterface w).config
  have honward := h.onward
  refine ⟨hconfig ▸ h.place, by omega, h.fit, fun m hm _ => ?_⟩
  obtain ⟨b, hb, hunfit⟩ := h.first m hm fun _ => by rw [halternate]; exact Nat.zero_le _
  rw [hconfig] at hb hunfit
  exact ⟨b, hb, hunfit⟩

/-- What is found behind an alternate that is unfit is found from that alternate on. -/
theorem Found.of_nextAlternate (hopen : w.nextAlternate.finished = false)
    (ha : Bus.alternateOf spec w.interface w.alternate w.config = .ok a)
    (hunfit : test (w.locate a.descriptor) = false) (h : Found spec test w.nextAlternate l) :
    Found spec test w l := by
  unfold InterfaceWalk.nextAlternate at hopen h
  split at hopen
  next hlt =>
    rw [if_pos hlt] at h
    have hbound : w.alternate.toNat < 255 := UInt8.lt_iff_toNat_lt.1 hlt
    have hnext : (w.alternate + 1).toNat = w.alternate.toNat + 1 := by
      rw [UInt8.toNat_add]
      change (w.alternate.toNat + 1) % 256 = _
      omega
    refine ⟨h.place, h.onward, h.fit, fun m hm hstart => ?_⟩
    by_cases hhere : l.index = w.interface ∧ m = w.alternate
    · obtain ⟨hindex, rfl⟩ := hhere
      rw [hindex]
      exact ⟨a, ha, hunfit⟩
    · refine h.first m hm fun hindex => ?_
      have hle := hstart hindex
      have hne : m.toNat ≠ w.alternate.toNat := fun heq =>
        hhere ⟨hindex, UInt8.toNat_inj.1 heq⟩
      change (w.alternate + 1).toNat ≤ m.toNat
      omega
  next hge =>
    rw [if_neg hge] at h
    exact h.of_nextInterface hopen

end

section

variable {id : DeviceId} {c : Bus} {d : DeviceState} (hd : c.device? id = some d)

include hd

theorem meets_query {w : InterfaceWalk} (hw : w.device = id) : Meets (AtCore c) w.query fun r =>
    ∀ descriptor, r = .ok descriptor →
      ∃ a, Bus.alternateOf d.spec w.interface w.alternate w.config = .ok a ∧
        descriptor = a.descriptor := by
  subst hw
  exact (meets_interfaceDescriptor hd w.interface w.alternate w.config).attempted

/-- The place that a step of the walk comes by. -/
structure Passed (spec : Device) (p : InterfaceWalk) (l : InterfaceLocation) (v : InterfaceWalk) :
    Prop where
  alternate : ∃ a, Bus.alternateOf spec p.interface p.alternate p.config = .ok a ∧
    l = p.locate a.descriptor
  next : v = p.nextAlternate

theorem meets_nextHere {w : InterfaceWalk} (hw : w.device = id) :
    Meets (AtCore c) w.nextHere fun item => ∀ l v, item = some (.ok l, v) →
      w.finished = false ∧ Passed d.spec w l v := by
  unfold InterfaceWalk.nextHere
  cases hopen : w.finished with
  | true => exact meets_pure nofun
  | false =>
    apply (meets_query hd hw).bind
    intro r hr
    cases r with
    | error e => exact meets_pure nofun
    | ok descriptor =>
      obtain ⟨a, ha, rfl⟩ := hr descriptor rfl
      refine meets_pure fun l v heq => ?_
      cases heq
      exact ⟨rfl, ⟨a, ha, rfl⟩, rfl⟩

/-- A step comes by the place where the walk stands, or by the next interface. -/
theorem meets_next {w : InterfaceWalk} (hw : w.device = id) :
    Meets (AtCore c) w.next fun item => ∀ l v, item = some (.ok l, v) → w.finished = false ∧
      (Passed d.spec w l v ∨
        w.nextInterface.finished = false ∧ Passed d.spec w.nextInterface l v) := by
  have hmoved : w.nextInterface.device = id := (InterfaceWalk.along_nextInterface w).device.trans hw
  unfold InterfaceWalk.next
  cases hopen : w.finished with
  | true => exact meets_pure nofun
  | false =>
    apply (meets_query hd hw).bind
    intro r hr
    cases r with
    | ok descriptor =>
      obtain ⟨a, ha, rfl⟩ := hr descriptor rfl
      refine meets_pure fun l v heq => ?_
      cases heq
      exact ⟨rfl, .inl ⟨⟨a, ha, rfl⟩, rfl⟩⟩
    | error e =>
      cases e with
      | invalidDescriptorIndex level index =>
        dsimp only
        split
        · intro b hb
          obtain ⟨hafter, hstep⟩ := meets_nextHere hd hmoved b hb
          exact ⟨hafter, fun item hitem l v heq => ⟨rfl, .inr (hstep item hitem l v heq)⟩⟩
        · exact meets_pure nofun
      | _ => exact meets_pure nofun

omit hd in
/-- What is found behind a place that a step came by, or at it. -/
theorem Passed.found {spec : Device} {test : InterfaceLocation → Bool} {p v : InterfaceWalk}
    {l k : InterfaceLocation} (h : Passed spec p l v)
    (hk : test l = true ∧ k = l ∨
      test l = false ∧ v.finished = false ∧ Found spec test v k) : Found spec test p k := by
  obtain ⟨⟨a, ha, rfl⟩, rfl⟩ := h
  rcases hk with ⟨hfit, rfl⟩ | ⟨hunfit, hopen, hfound⟩
  · exact found_here ha hfit
  · exact hfound.of_nextAlternate hopen ha hunfit

/-- A search through the walk finds the first fit alternate of an interface. -/
theorem meets_findUpTo (test : InterfaceLocation → Bool) (fuel : Nat) {w : InterfaceWalk}
    (hw : w.device = id) : Meets (AtCore c) (InterfaceWalk.cursor.findUpTo test fuel w)
      fun r => ∀ l, r = some l → w.finished = false ∧ Found d.spec test w l := by
  induction fuel generalizing w with
  | zero => exact meets_pure nofun
  | succ fuel ih =>
    unfold Cursor.findUpTo
    apply (meets_next hd hw).bind
    intro item hitem
    rcases item with _ | ⟨e | l, v⟩
    case none => exact meets_pure nofun
    case some.error => exact meets_throw e
    case some.ok =>
      obtain ⟨hopen, hpassed⟩ := hitem l v rfl
      -- The search goes on from behind the place that was come by, or ends there.
      have hfound : ∀ k, (test l = true ∧ k = l ∨
          test l = false ∧ v.finished = false ∧ Found d.spec test v k) → Found d.spec test w k := by
        intro k hk
        rcases hpassed with hpassed | ⟨hmoved, hpassed⟩
        · exact hpassed.found hk
        · exact (hpassed.found hk).of_nextInterface hmoved
      have hdevice : v.device = id := by
        rcases hpassed with ⟨-, rfl⟩ | ⟨-, -, rfl⟩
        · exact (InterfaceWalk.along_nextAlternate w).device.trans hw
        · exact ((InterfaceWalk.along_nextInterface w).trans
            (InterfaceWalk.along_nextAlternate _)).device.trans hw
      dsimp only
      cases htest : test l with
      | true =>
        refine meets_pure fun k hk => ⟨hopen, hfound k (.inl ⟨htest, ?_⟩)⟩
        cases hk
        rfl
      | false =>
        intro b hb
        obtain ⟨hafter, hrest⟩ := ih hdevice b hb
        refine ⟨hafter, fun r hr k hk => ⟨hopen, hfound k (.inr ⟨htest, ?_⟩)⟩⟩
        exact hrest r hr k hk

end

theorem alternateOf_eq_ok {d : DeviceState} {config : UInt8} {k : Configuration}
    (hk : d.spec.configurations[config.toNat]? = some k) {interface alternate : UInt8}
    {a : Alternate} : Bus.alternateOf d.spec interface alternate config = .ok a ↔
      ∃ g, k.interfaces[interface.toNat]? = some g ∧ g[alternate.toNat]? = some a := by
  rw [alternateOf_eq hk]
  cases k.interfaces[interface.toNat]? with
  | none => simp
  | some g =>
    cases hg : g[alternate.toNat]? <;> simp [hg]

/-- What is found is the first alternate with its number and setting. -/
theorem Found.alternate {d : DeviceState} {k : Configuration} {number : UInt8}
    {selected : Option UInt8} {w : InterfaceWalk} {l : InterfaceLocation}
    (h : Found d.spec (SerialBus.Device.isWanted number selected) w l) (hstart : w.alternate = 0)
    (hk : d.spec.configurations[w.config.toNat]? = some k) (hregular : k.Regular)
    (hgrouped : k.Grouped) : ∃ a, Located d.spec w.config l a ∧
      k.alternates.find? (fun b => b.descriptor.interfaceNumber == l.descriptor.interfaceNumber &&
        b.descriptor.alternateSetting == l.descriptor.alternateSetting) = some a := by
  obtain ⟨a, ha⟩ := h.place
  have hconfig := ha.config
  have hplace := ha.alternate
  rw [hconfig] at hplace
  obtain ⟨g, hg, hget⟩ := (alternateOf_eq_ok hk).1 hplace
  have hmem : a ∈ g := List.mem_of_getElem? hget
  obtain ⟨hn, hs⟩ : l.descriptor.interfaceNumber = number ∧
      selected.all (l.descriptor.alternateSetting == ·) = true := by
    simpa [SerialBus.Device.isWanted] using h.fit
  have hfirst : g.find? (fun b => b.descriptor.interfaceNumber == l.descriptor.interfaceNumber &&
      b.descriptor.alternateSetting == l.descriptor.alternateSetting) = some a := by
    apply find?_of_first hget
    · simp [ha.descriptor]
    · intro j hj
      have hbyte := UInt8.toNat_lt l.alternateIndex
      have hm : j.toUInt8.toNat = j := toNat_toUInt8 (by omega)
      obtain ⟨b, hb, hunfit⟩ := h.first j.toUInt8 (by omega) fun _ => by
        rw [hstart]
        exact Nat.zero_le _
      obtain ⟨g', hg', hget'⟩ := (alternateOf_eq_ok hk).1 hb
      cases hg.symm.trans hg'
      rw [hm] at hget'
      refine ⟨b, hget', ?_⟩
      -- It has the number, so it is unfit by its setting.
      have hnumber : b.descriptor.interfaceNumber = number := by
        rw [← hn, ha.descriptor]
        exact hregular.number g (List.mem_of_getElem? hg) b (List.mem_of_getElem? hget') a hmem
      have hsetting : selected.all (b.descriptor.alternateSetting == ·) = false := by
        simpa [SerialBus.Device.isWanted, hnumber] using hunfit
      cases selected with
      | none => cases hsetting
      | some s =>
        have hl : l.descriptor.alternateSetting = s := by simpa using hs
        have hother : b.descriptor.alternateSetting ≠ s := by simpa using hsetting
        rw [hl]
        simp [hother]
  have hall : k.alternates.find? _ = some a := Configuration.find?_alternates_of_group hgrouped
    (n := l.descriptor.interfaceNumber) (fun b hb => by simp at hb; exact hb.1) hg hfirst
  exact ⟨a, ha, hall⟩

end SerialBus.Loopback
