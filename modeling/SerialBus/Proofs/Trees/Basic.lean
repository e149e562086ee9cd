import SerialBus.Backend.Basic
import SerialBus.Proofs.Action
import SerialBus.Proofs.Loopback.Grouping

/-! Trees of descriptors, whichever backend they are read from: what makes one standard, what an
index leads to in it, and what it means that a backend tells it. -/
namespace SerialBus

open SerialBus.Action Loopback

/-- The descriptors of a configuration, the alternates of each interface in a list of their own.
The lists are what counts; the numbers of items in the descriptors are not looked at. -/
structure ConfigurationTree where
  descriptor : ConfigurationDescriptor
  interfaces : List (List Addition)

/-- The configurations of a device. -/
abbrev Tree := List ConfigurationTree

/-- The bytes of an endpoint descriptor that do not depend on the endpoint. -/
structure StandardEndpoint (e : EndpointDescriptor) : Prop where
  length : e.length = 7
  descriptorType : e.descriptorType = 5
  attributes : e.attributes &&& 0xC0 = 0
  refresh : e.refresh = 0
  synchAddress : e.synchAddress = 0

instance (e : EndpointDescriptor) : Decidable (StandardEndpoint e) :=
  decidable_of_iff (e.length = 7 ∧ e.descriptorType = 5 ∧ e.attributes &&& 0xC0 = 0 ∧
    e.refresh = 0 ∧ e.synchAddress = 0)
    ⟨fun ⟨h₁, h₂, h₃, h₄, h₅⟩ => ⟨h₁, h₂, h₃, h₄, h₅⟩, fun ⟨h₁, h₂, h₃, h₄, h₅⟩ =>
      ⟨h₁, h₂, h₃, h₄, h₅⟩⟩

structure StandardAlternate (x : Addition) : Prop where
  length : x.1.length = 9
  descriptorType : x.1.descriptorType = 4
  count : x.2.length ≤ 255
  endpoints : ∀ e ∈ x.2, StandardEndpoint e

instance (x : Addition) : Decidable (StandardAlternate x) :=
  decidable_of_iff (x.1.length = 9 ∧ x.1.descriptorType = 4 ∧ x.2.length ≤ 255 ∧
    ∀ e ∈ x.2, StandardEndpoint e)
    ⟨fun ⟨h₁, h₂, h₃, h₄⟩ => ⟨h₁, h₂, h₃, h₄⟩, fun ⟨h₁, h₂, h₃, h₄⟩ => ⟨h₁, h₂, h₃, h₄⟩⟩

namespace ConfigurationTree

/-- The bytes of the standard descriptors of the configuration. -/
def wireLength (k : ConfigurationTree) : Nat :=
  9 + (k.interfaces.flatten.map Addition.wireLength).sum

/-- The descriptor with the counts of the lists. -/
def counted (k : ConfigurationTree) : ConfigurationDescriptor :=
  { k.descriptor with
    numInterfaces := k.interfaces.length.toUInt8
    totalLength := k.wireLength.toUInt16 }

/-- Each interface has a number of its own and at least one alternate, and all that is counted fits
in the field that it is counted in. -/
structure Standard (k : ConfigurationTree) : Prop where
  length : k.descriptor.length = 9
  descriptorType : k.descriptor.descriptorType = 2
  attributes : k.descriptor.attributes &&& 0x9F = 0x80
  nonempty : k.interfaces ≠ []
  count : k.interfaces.length ≤ 255
  totalLength : k.wireLength ≤ 65535
  alternates : ∀ g ∈ k.interfaces, g ≠ [] ∧ g.length ≤ 256
  number : ∀ g ∈ k.interfaces, ∀ x ∈ g, ∀ y ∈ g, x.number = y.number
  distinct : k.interfaces.Pairwise fun g l => ∀ x ∈ g, ∀ y ∈ l, x.number ≠ y.number
  each : ∀ g ∈ k.interfaces, ∀ x ∈ g, StandardAlternate x

end ConfigurationTree

/-! What is the same in all standard descriptors need not be told. -/

theorem StandardEndpoint.eq_told {e : EndpointDescriptor} (h : StandardEndpoint e) :
    { endpointAddress := e.endpointAddress, attributes := e.attributes,
      maxPacketSize := e.maxPacketSize, interval := e.interval } = e := by
  obtain ⟨hlength, htype, -, hrefresh, hsynch⟩ := h
  cases e
  simp_all

theorem StandardAlternate.eq_told {x : Addition} (h : StandardAlternate x) :
    { interfaceNumber := x.1.interfaceNumber, alternateSetting := x.1.alternateSetting,
      numEndpoints := x.2.length.toUInt8, interfaceClass := x.1.interfaceClass,
      interfaceSubclass := x.1.interfaceSubclass, interfaceProtocol := x.1.interfaceProtocol,
      stringIndex := x.1.stringIndex } = x.alternate.descriptor := by
  obtain ⟨hlength, htype, -, -⟩ := h
  simp [Addition.alternate, hlength, htype]

theorem ConfigurationTree.Standard.eq_told {k : ConfigurationTree} (h : k.Standard) :
    { totalLength := k.wireLength.toUInt16, numInterfaces := k.interfaces.length.toUInt8,
      configurationValue := k.descriptor.configurationValue,
      stringIndex := k.descriptor.stringIndex, attributes := k.descriptor.attributes,
      maxPower := k.descriptor.maxPower } = k.counted := by
  have hlength := h.length
  have htype := h.descriptorType
  simp [counted, hlength, htype]

/-- The item that an index leads to, or the error that says which index leads nowhere. -/
def itemAt {α : Type} (level : DescriptorLevel) (items : List α) (index : UInt8) :
    Except UsbError α :=
  match items[index.toNat]? with
  | some a => .ok a
  | none => .error (.invalidDescriptorIndex level index)

theorem mem_of_itemAt {α : Type} {level : DescriptorLevel} {items : List α} {index : UInt8} {a : α}
    (h : itemAt level items index = .ok a) : a ∈ items := by
  unfold itemAt at h
  cases hget : items[index.toNat]? with
  | none => simp [hget] at h
  | some b =>
    rw [hget] at h
    cases h
    exact List.mem_of_getElem? hget

namespace Tree

def configurationAt (t : Tree) (config : UInt8) : Except UsbError ConfigurationTree :=
  itemAt .configuration t config

def alternateAt (t : Tree) (interface alternate config : UInt8) : Except UsbError Addition :=
  (t.configurationAt config).bind fun k =>
    (itemAt .interface k.interfaces interface).bind fun g => itemAt .alternateSetting g alternate

def endpointAt (t : Tree) (endpoint interface alternate config : UInt8) :
    Except UsbError EndpointDescriptor :=
  (t.alternateAt interface alternate config).bind fun x => itemAt .endpoint x.2 endpoint

theorem standard_of_alternateAt {t : Tree} (ht : ∀ k ∈ t, k.Standard)
    {interface alternate config : UInt8} {x : Addition}
    (hx : t.alternateAt interface alternate config = .ok x) : StandardAlternate x := by
  unfold alternateAt at hx
  cases hk : t.configurationAt config with
  | error e => simp [hk, Except.bind] at hx
  | ok k =>
    cases hg : itemAt .interface k.interfaces interface with
    | error e => simp [hk, hg, Except.bind] at hx
    | ok g =>
      rw [hk, Except.bind, hg, Except.bind] at hx
      exact (ht k (mem_of_itemAt hk)).each g (mem_of_itemAt hg) x (mem_of_itemAt hx)

theorem standard_of_endpointAt {t : Tree} (ht : ∀ k ∈ t, k.Standard)
    {endpoint interface alternate config : UInt8} {e : EndpointDescriptor}
    (he : t.endpointAt endpoint interface alternate config = .ok e) : StandardEndpoint e := by
  unfold endpointAt at he
  cases hx : t.alternateAt interface alternate config with
  | error err => simp [hx, Except.bind] at he
  | ok x =>
    rw [hx, Except.bind] at he
    exact (standard_of_alternateAt ht hx).endpoints e (mem_of_itemAt he)

/-- A backend tells the tree of a device: for all indices it gives the descriptor that stands there,
or says which of them is out of range. -/
structure ToldBy {σ : Type} [Backend σ] (t : Tree) (s : σ) (id : DeviceId) : Prop where
  configuration : ∀ config, outcome (Backend.configurationDescriptor id config) s =
    (t.configurationAt config).map ConfigurationTree.counted
  interface : ∀ interface alternate config,
    outcome (Backend.interfaceDescriptor id interface alternate config) s =
      (t.alternateAt interface alternate config).map fun x => x.alternate.descriptor
  endpoint : ∀ endpoint interface alternate config,
    outcome (Backend.endpointDescriptor id endpoint interface alternate config) s =
      t.endpointAt endpoint interface alternate config

end Tree

end SerialBus
