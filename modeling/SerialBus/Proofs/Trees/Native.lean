import Mathlib.Data.List.Forall2
import SerialBus.Native.Library
import SerialBus.Proofs.Gives
import SerialBus.Proofs.Native.Calls
import SerialBus.Proofs.Trees.Basic

/-! A tree of descriptors as a library reports it. All that the library decodes is put together
again as it was. -/
namespace SerialBus.Native

open SerialBus.Action Loopback

/-! What a library tells of the fields of a tree. -/

namespace Decoded

structure Endpoint.Tells (p : Endpoint) (e : EndpointDescriptor) : Prop where
  address : p.address = e.endpointAddress
  transferType : p.transferType = transferTypeOf e.attributes
  syncType : p.syncType = syncTypeOf e.attributes
  usageType : p.usageType = usageTypeOf e.attributes
  maxPacketSize : p.maxPacketSize = e.maxPacketSize
  interval : p.interval = e.interval

structure Alternate.Tells (a : Alternate) (x : Addition) : Prop where
  number : a.number = x.1.interfaceNumber
  alternate : a.alternate = x.1.alternateSetting
  numEndpoints : a.numEndpoints = x.2.length.toUInt8
  interfaceClass : a.interfaceClass = x.1.interfaceClass
  interfaceSubclass : a.interfaceSubclass = x.1.interfaceSubclass
  interfaceProtocol : a.interfaceProtocol = x.1.interfaceProtocol
  stringIndex : a.descriptionIndex? = stringIndex? x.1.stringIndex
  endpoints : List.Forall₂ Endpoint.Tells a.endpoints x.2

structure Configuration.Tells (c : Configuration) (k : ConfigurationTree) : Prop where
  value : c.value = k.descriptor.configurationValue
  numInterfaces : c.numInterfaces = k.interfaces.length.toUInt8
  selfPowered : c.selfPowered = (k.descriptor.attributes &&& 0x40 != 0)
  remoteWakeup : c.remoteWakeup = (k.descriptor.attributes &&& 0x20 != 0)
  maxPower : c.maxPowerMilliamps = k.descriptor.maxPower.toUInt16 * 2
  stringIndex : c.descriptionIndex? = stringIndex? k.descriptor.stringIndex
  interfaces : List.Forall₂ (List.Forall₂ Alternate.Tells) c.interfaces k.interfaces

end Decoded

/-- In the states `I`, which its reports do not leave, the library reports the tree for a device and
fails at nothing. -/
structure Telling {L D H : Type} [Libusb L D H] (I : L → Prop) (d : D) (t : Tree) : Prop where
  deviceDescriptor : ∀ {l}, I l → ∃ told m, Libusb.deviceDescriptor d l = .ok told m ∧ I m ∧
    told.numConfigurations = t.length.toUInt8
  configDescriptor : ∀ {l}, I l → ∀ {config : UInt8} {k}, t[config.toNat]? = some k →
    ∃ c m, Libusb.configDescriptor d config l = .ok c m ∧ c.Tells k

/-- The library reports the tree of a device that it has enumerated. -/
def Client.Reports {L D H : Type} [Libusb L D H] (n : Client L D H) (id : DeviceId) (t : Tree) :
    Prop :=
  ∃ d, n.context.known.get? id = some d ∧ ∃ I : L → Prop, I n.library ∧ Telling I d t

/-! The fields are put together again. -/

theorem stringIndex?_getD (index : UInt8) : (stringIndex? index).getD 0 = index := by
  unfold stringIndex?
  split
  next hzero => exact hzero.symm
  next => exact Option.getD_some

namespace Decoded

theorem Endpoint.Tells.attributes_eq {p : Endpoint} {e : EndpointDescriptor} (h : p.Tells e)
    (he : e.attributes &&& 0xC0 = 0) : p.attributes = e.attributes := by
  have hbyte : ∀ b : UInt8, b &&& 0xC0 = 0 → (transferTypeOf b).code |||
      ((syncTypeOf b).code <<< 2) ||| ((usageTypeOf b).code <<< 4) = b :=
    forall_byte (by decide +kernel)
  rw [Endpoint.attributes, h.transferType, h.syncType, h.usageType]
  exact hbyte e.attributes he

theorem Configuration.Tells.attributes_eq {c : Configuration} {k : ConfigurationTree}
    (h : c.Tells k) (hk : k.descriptor.attributes &&& 0x9F = 0x80) :
    c.attributes = k.descriptor.attributes := by
  have hbyte : ∀ b : UInt8, b &&& 0x9F = 0x80 → 0x80 ||| (if b &&& 0x40 != 0 then 0x40 else 0) |||
      (if b &&& 0x20 != 0 then 0x20 else 0) = b :=
    forall_byte (by decide +kernel)
  rw [Configuration.attributes, h.selfPowered, h.remoteWakeup]
  exact hbyte k.descriptor.attributes hk

/-- Halving the milliamperes gives back the units of 2 mA. -/
theorem Configuration.Tells.maxPower_eq {c : Configuration} {k : ConfigurationTree}
    (h : c.Tells k) : (min (c.maxPowerMilliamps / 2) 255).toUInt8 = k.descriptor.maxPower := by
  have hbyte : ∀ b : UInt8, (min (b.toUInt16 * 2 / 2) 255).toUInt8 = b :=
    forall_byte (by decide +kernel)
  rw [h.maxPower]
  exact hbyte k.descriptor.maxPower

/-- The sum of the lengths in 16 bits is that of all of them, taken to 16 bits. -/
theorem wireLength_alternates {as : List Alternate} {xs : List Addition}
    (h : List.Forall₂ Alternate.Tells as xs) (hxs : ∀ x ∈ xs, x.2.length ≤ 255) (total : Nat) :
    as.foldl (fun total a => total + 9 + 7 * a.numEndpoints.toUInt16) total.toUInt16 =
      (total + (xs.map Addition.wireLength).sum).toUInt16 := by
  induction h generalizing total with
  | nil => rfl
  | @cons a x as xs ha _ ih =>
    have hx : x.2.length ≤ 255 := hxs x List.mem_cons_self
    have hcount : a.numEndpoints.toUInt16 = x.2.length.toUInt16 := by
      apply UInt16.toNat_inj.1
      have hwide : x.2.length.toUInt16.toNat = x.2.length :=
        UInt16.toNat_ofNat_of_lt' (by change _ < 65536; omega)
      have hbyte : x.2.length.toUInt8.toNat = x.2.length :=
        UInt8.toNat_ofNat_of_lt' (by change _ < 256; omega)
      rw [ha.numEndpoints, UInt8.toNat_toUInt16, hbyte, hwide]
    have hstep : total.toUInt16 + 9 + 7 * a.numEndpoints.toUInt16 =
        (total + x.wireLength).toUInt16 := by
      rw [hcount, Addition.wireLength, ← Nat.add_assoc]
      simp [UInt16.ofNat_add, UInt16.ofNat_mul]
    rw [List.foldl_cons, hstep, ih fun y hy => hxs y (List.mem_cons_of_mem _ hy), List.map_cons,
      List.sum_cons, Nat.add_assoc]

theorem wireLength_interfaces {is : List (List Alternate)} {gs : List (List Addition)}
    (h : List.Forall₂ (List.Forall₂ Alternate.Tells) is gs)
    (hgs : ∀ g ∈ gs, ∀ x ∈ g, x.2.length ≤ 255) (total : Nat) :
    is.foldl (fun total as =>
        as.foldl (fun total a => total + 9 + 7 * a.numEndpoints.toUInt16) total) total.toUInt16 =
      (total + (gs.flatten.map Addition.wireLength).sum).toUInt16 := by
  induction h generalizing total with
  | nil => rfl
  | @cons as g is gs hg _ ih =>
    rw [List.foldl_cons, wireLength_alternates hg (hgs g List.mem_cons_self),
      ih fun y hy => hgs y (List.mem_cons_of_mem _ hy), List.flatten_cons, List.map_append,
      List.sum_append, Nat.add_assoc]

/-! The descriptors of a standard tree come out as they are in it. -/

theorem Endpoint.Tells.descriptor_eq {p : Endpoint} {e : EndpointDescriptor} (h : p.Tells e)
    (he : StandardEndpoint e) : p.descriptor = e := by
  rw [Endpoint.descriptor, h.attributes_eq he.attributes, h.address, h.maxPacketSize, h.interval]
  exact he.eq_told

theorem Alternate.Tells.descriptor_eq {a : Alternate} {x : Addition} (h : a.Tells x)
    (hx : StandardAlternate x) : a.descriptor = x.alternate.descriptor := by
  rw [Alternate.descriptor, h.number, h.alternate, h.numEndpoints, h.interfaceClass,
    h.interfaceSubclass, h.interfaceProtocol, h.stringIndex, stringIndex?_getD]
  exact hx.eq_told

theorem Configuration.Tells.descriptor_eq {c : Configuration} {k : ConfigurationTree}
    (h : c.Tells k) (hk : k.Standard) : c.descriptor = k.counted := by
  have hlength : c.wireLength = k.wireLength.toUInt16 :=
    wireLength_interfaces h.interfaces (fun g hg x hx => (hk.each g hg x hx).count) 9
  rw [Configuration.descriptor, hlength, h.numInterfaces, h.value, h.stringIndex,
    stringIndex?_getD, h.attributes_eq hk.attributes, h.maxPower_eq]
  exact hk.eq_told

end Decoded

/-! Each level of the tree as it is read. -/

theorem rel_getElem? {α β : Type} {R : α → β → Prop} {as : List α} {xs : List β}
    (h : List.Forall₂ R as xs) (i : Nat) : Option.Rel R as[i]? xs[i]? := by
  induction h generalizing i with
  | nil => exact .none
  | cons hax _ ih =>
    cases i with
    | zero => exact .some hax
    | succ i => simpa only [List.getElem?_cons_succ] using ih i

section

variable {L D H : Type} [Libusb L D H] {I : L → Prop} {d : D} {t : Tree}
  (htold : Telling I d t) (hcount : t.length ≤ 255)

include htold hcount

theorem answers_configurationAt (config : UInt8) :
    Answers (fun b : Client L D H => I b.library) (Client.configurationAt d config)
      (t.configurationAt config) (fun k c _ => c.Tells k) fun _ => True := by
  intro b hb
  obtain ⟨told, l, hdevice, hl, hnumber⟩ := htold.deviceDescriptor hb
  have hbyte : told.numConfigurations ≤ config ↔ t.length ≤ config.toNat := by
    have hlength : t.length.toUInt8.toNat = t.length :=
      UInt8.toNat_ofNat_of_lt' (by change _ < 256; omega)
    rw [hnumber, UInt8.le_iff_toNat_le, hlength]
  unfold Tree.configurationAt itemAt
  cases hk : t[config.toNat]? with
  | none =>
    have hout := hbyte.2 (List.getElem?_eq_none_iff.1 hk)
    exact ⟨(eq_error_iff.1 (Client.configurationAt_of_le hdevice hout)).1, trivial⟩
  | some k =>
    have hin : config < told.numConfigurations := by
      rw [← UInt8.not_le, hbyte]
      exact Nat.not_le.2 (List.getElem?_eq_some_iff.1 hk).1
    obtain ⟨c, m, hconfig, hc⟩ := htold.configDescriptor hl hk
    have hread := Client.configurationAt_of_ok hdevice hin hconfig
    exact ⟨c, (eq_ok_iff.1 hread).1, hc⟩

theorem answers_alternateAt (interface alternate config : UInt8) :
    Answers (fun b : Client L D H => I b.library)
      (Client.alternateAt d interface alternate config)
      (t.alternateAt interface alternate config) (fun x a _ => a.Tells x) fun _ => True := by
  unfold Client.alternateAt Tree.alternateAt
  apply (answers_configurationAt htold hcount config).bind
  intro k c _ s hc
  have hinterface := rel_getElem? hc.interfaces interface.toNat
  unfold itemAt
  generalize c.interfaces[interface.toNat]? = is, k.interfaces[interface.toNat]? = gs
    at hinterface ⊢
  cases hinterface with
  | none => exact ⟨rfl, trivial⟩
  | @some as g hg =>
    have halternate := rel_getElem? hg alternate.toNat
    simp only [Except.bind]
    generalize as[alternate.toNat]? = a?, g[alternate.toNat]? = x? at halternate ⊢
    cases halternate with
    | none => exact ⟨rfl, trivial⟩
    | @some a x ha => exact ⟨a, rfl, ha⟩

theorem answers_endpointAt (endpoint interface alternate config : UInt8) :
    Answers (fun b : Client L D H => I b.library)
      (Client.endpointAt d endpoint interface alternate config)
      (t.endpointAt endpoint interface alternate config) (fun e p _ => p.Tells e) fun _ => True := by
  unfold Client.endpointAt Tree.endpointAt
  apply (answers_alternateAt htold hcount interface alternate config).bind
  intro x a _ s ha
  have hendpoint := rel_getElem? ha.endpoints endpoint.toNat
  unfold itemAt
  generalize a.endpoints[endpoint.toNat]? = p?, x.2[endpoint.toNat]? = e? at hendpoint ⊢
  cases hendpoint with
  | none => exact ⟨rfl, trivial⟩
  | @some p e hp => exact ⟨p, rfl, hp⟩

end

/-! The simulated library, which keeps the raw fields of a tree. -/

def Endpoint.ofDescriptor (e : EndpointDescriptor) : Endpoint :=
  ⟨e.endpointAddress, e.attributes, e.maxPacketSize, e.interval⟩

def Alternate.ofAddition (x : Addition) : Alternate where
  number := x.1.interfaceNumber
  alternate := x.1.alternateSetting
  interfaceClass := x.1.interfaceClass
  interfaceSubclass := x.1.interfaceSubclass
  interfaceProtocol := x.1.interfaceProtocol
  stringIndex := x.1.stringIndex
  endpoints := x.2.map Endpoint.ofDescriptor

def Configuration.ofTree (k : ConfigurationTree) : Configuration where
  value := k.descriptor.configurationValue
  attributes := k.descriptor.attributes
  maxPower := k.descriptor.maxPower
  stringIndex := k.descriptor.stringIndex
  interfaces := k.interfaces.map fun g => g.map Alternate.ofAddition

theorem Endpoint.tells_ofDescriptor (e : EndpointDescriptor) : (ofDescriptor e).decoded.Tells e :=
  ⟨rfl, rfl, rfl, rfl, rfl, rfl⟩

theorem forall₂_map {α β γ : Type} {R : γ → α → Prop} {f : α → β} {g : β → γ}
    (h : ∀ a, R (g (f a)) a) (as : List α) : List.Forall₂ R ((as.map f).map g) as := by
  rw [List.map_map, List.forall₂_map_left_iff, List.forall₂_same]
  exact fun a _ => h a

theorem Alternate.tells_ofAddition (x : Addition) : (ofAddition x).decoded.Tells x := by
  constructor
  case numEndpoints => rw [decoded, ofAddition, List.length_map]
  case endpoints => exact forall₂_map Endpoint.tells_ofDescriptor x.2
  all_goals rfl

theorem Configuration.tells_ofTree (k : ConfigurationTree) : (ofTree k).decoded.Tells k := by
  constructor
  case numInterfaces => rw [decoded, ofTree, List.length_map]
  case interfaces =>
    apply forall₂_map
    exact forall₂_map Alternate.tells_ofAddition
  all_goals rfl

theorem Library.check_of_code {l : Library} {f : Function} (h : l.code f = 0) :
    check f l = .ok () l := by
  change (if l.code f ≠ 0 then throw _ else pure () : EStateM Failure Library Unit) l = _
  rw [if_neg (not_not.2 h)]
  rfl

/-- A device with the raw fields of a tree, in a library that none of the functions that read
descriptors is made to fail in. -/
theorem Library.telling {l : Library} {d : Device} {t : Tree}
    (hconfigurations : d.configurations = t.map Configuration.ofTree)
    (hnumber : d.numConfigurations = t.length.toUInt8)
    (hdevice : l.code .getDeviceDescriptor = 0) (hconfig : l.code .getConfigDescriptor = 0) :
    Telling (· = l) d t where
  deviceDescriptor {m} hm := by
    subst hm
    have hcheck := check_of_code hdevice
    have hread : Libusb.deviceDescriptor d m = .ok d.decoded m := by
      change (check .getDeviceDescriptor >>= fun _ => pure d.decoded) m = _
      simp only [bind, EStateM.bind, hcheck]
      rfl
    exact ⟨d.decoded, m, hread, rfl, hnumber⟩
  configDescriptor {m} hm config k hk := by
    subst hm
    have hcheck := check_of_code hconfig
    have hget : d.configurations[config.toNat]? = some (.ofTree k) := by
      rw [hconfigurations, List.getElem?_map, hk, Option.map_some]
    have hread : Libusb.configDescriptor d config m = .ok (Configuration.ofTree k).decoded m := by
      change configDescriptor d config m = _
      simp only [configDescriptor, bind, EStateM.bind, hcheck, hget]
      rfl
    exact ⟨(Configuration.ofTree k).decoded, m, hread, Configuration.tells_ofTree k⟩

theorem Client.reports_of_known {n : Bus} {id : DeviceId} {d : Device} {t : Tree}
    (hd : n.context.known.get? id = some d)
    (hconfigurations : d.configurations = t.map Configuration.ofTree)
    (hnumber : d.numConfigurations = t.length.toUInt8)
    (hdevice : n.library.code .getDeviceDescriptor = 0)
    (hconfig : n.library.code .getConfigDescriptor = 0) : n.Reports id t :=
  ⟨d, hd, (· = n.library), rfl, Library.telling hconfigurations hnumber hdevice hconfig⟩

end SerialBus.Native
