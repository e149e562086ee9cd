import SerialBus.Loopback.Device

/-! Loopback devices as they are put together, one configuration and one alternate at a time. The
counts in their descriptors are right, and the alternates of an interface stand together. -/
namespace SerialBus.Loopback

namespace Configuration

/-- The configurations that alternates were added to one after another. -/
inductive Assembled : Configuration → Prop
  | empty (descriptor : ConfigurationDescriptor) : Assembled (.ofDescriptor descriptor)
  | add {c : Configuration} (h : Assembled c) (descriptor : InterfaceDescriptor)
      (endpoints : List EndpointDescriptor) : Assembled (c.addInterface descriptor endpoints)

/-- The counts are those of the lists, and each interface has alternates, of one number. -/
structure Regular (c : Configuration) : Prop where
  numInterfaces : c.descriptor.numInterfaces = c.interfaces.length.toUInt8
  nonempty : ∀ g ∈ c.interfaces, g ≠ []
  number : ∀ g ∈ c.interfaces, ∀ a ∈ g, ∀ b ∈ g,
    a.descriptor.interfaceNumber = b.descriptor.interfaceNumber
  numEndpoints : ∀ g ∈ c.interfaces, ∀ a ∈ g, a.descriptor.numEndpoints = a.endpoints.length.toUInt8

theorem mem_place {a : Alternate} {groups : List (List Alternate)} {g : List Alternate}
    (h : g ∈ place a groups) :
    g ∈ groups ∨ g = [a] ∨ ∃ l ∈ groups, g = l ++ [a] ∧
      l.head?.any (fun b => b.descriptor.interfaceNumber == a.descriptor.interfaceNumber) := by
  induction groups with
  | nil => exact .inr (.inl (List.mem_singleton.1 h))
  | cons first rest ih =>
    unfold place at h
    split at h
    next hfirst =>
      rcases List.mem_cons.1 h with rfl | h
      · exact .inr (.inr ⟨first, List.mem_cons_self, rfl, hfirst⟩)
      · exact .inl (List.mem_cons_of_mem _ h)
    next =>
      rcases List.mem_cons.1 h with rfl | h
      · exact .inl List.mem_cons_self
      · rcases ih h with h | h | ⟨l, hl, h⟩
        · exact .inl (List.mem_cons_of_mem _ h)
        · exact .inr (.inl h)
        · exact .inr (.inr ⟨l, List.mem_cons_of_mem _ hl, h⟩)

theorem Regular.addInterface {c : Configuration} (hc : c.Regular) (descriptor : InterfaceDescriptor)
    (endpoints : List EndpointDescriptor) : (c.addInterface descriptor endpoints).Regular := by
  refine ⟨rfl, fun g hg => ?_, fun g hg => ?_, fun g hg => ?_⟩
  · rcases mem_place hg with hg | rfl | ⟨l, -, rfl, -⟩
    · exact hc.nonempty g hg
    · exact List.cons_ne_nil _ _
    · exact List.append_ne_nil_of_right_ne_nil _ (List.cons_ne_nil _ _)
  · rcases mem_place hg with hg | rfl | ⟨l, hl, rfl, hhead⟩
    · exact hc.number g hg
    · intro a ha b hb
      rw [List.mem_singleton.1 ha, List.mem_singleton.1 hb]
    · -- All members of the group have the number of its head, which is that of the new one.
      obtain ⟨first, hfirst, heq⟩ := (Option.any_eq_true _ _).1 hhead
      have hsame : ∀ b ∈ l, b.descriptor.interfaceNumber = descriptor.interfaceNumber := by
        intro b hb
        rw [hc.number l hl b hb first (List.mem_of_head? hfirst)]
        exact eq_of_beq heq
      intro a ha b hb
      rw [List.mem_append, List.mem_singleton] at ha hb
      rcases ha with ha | rfl <;> rcases hb with hb | rfl
      · rw [hsame a ha, hsame b hb]
      · exact hsame a ha
      · exact (hsame b hb).symm
      · rfl
  · rcases mem_place hg with hg | rfl | ⟨l, hl, rfl, -⟩
    · exact hc.numEndpoints g hg
    · intro a ha
      rw [List.mem_singleton.1 ha]
    · intro a ha
      rcases List.mem_append.1 ha with ha | ha
      · exact hc.numEndpoints l hl a ha
      · rw [List.mem_singleton.1 ha]

theorem Assembled.regular {c : Configuration} (h : c.Assembled) : c.Regular := by
  induction h with
  | empty descriptor =>
    exact ⟨rfl, fun g hg => (by cases hg), fun g hg => (by cases hg), fun g hg => (by cases hg)⟩
  | add _ descriptor endpoints ih => exact ih.addInterface descriptor endpoints

/-- Different interfaces have different numbers. -/
def Grouped (c : Configuration) : Prop :=
  c.interfaces.Pairwise fun g l => ∀ a ∈ g, ∀ b ∈ l,
    a.descriptor.interfaceNumber ≠ b.descriptor.interfaceNumber

theorem pairwise_place {a : Alternate} {groups : List (List Alternate)}
    (hne : ∀ g ∈ groups, g ≠ [])
    (hnumber : ∀ g ∈ groups, ∀ b ∈ g, ∀ d ∈ g,
      b.descriptor.interfaceNumber = d.descriptor.interfaceNumber)
    (h : groups.Pairwise fun g l => ∀ b ∈ g, ∀ d ∈ l,
      b.descriptor.interfaceNumber ≠ d.descriptor.interfaceNumber) :
    (place a groups).Pairwise fun g l => ∀ b ∈ g, ∀ d ∈ l,
      b.descriptor.interfaceNumber ≠ d.descriptor.interfaceNumber := by
  induction groups with
  | nil => exact List.pairwise_singleton _ _
  | cons first rest ih =>
    obtain ⟨hfirst, hrest⟩ := List.pairwise_cons.1 h
    obtain ⟨b, l, rfl⟩ := List.exists_cons_of_ne_nil (hne first List.mem_cons_self)
    have hsame := hnumber (b :: l) List.mem_cons_self
    unfold place
    by_cases hb : b.descriptor.interfaceNumber = a.descriptor.interfaceNumber
    · have hplace : ((b :: l).head?.any fun b =>
          b.descriptor.interfaceNumber == a.descriptor.interfaceNumber) = true := by
        simpa using hb
      rw [if_pos hplace, List.pairwise_cons]
      refine ⟨fun g hg d hd e he => ?_, hrest⟩
      rcases List.mem_append.1 hd with hd | hd
      · exact hfirst g hg d hd e he
      · rw [List.mem_singleton.1 hd, ← hb]
        exact hfirst g hg b List.mem_cons_self e he
    · have hplace : ¬ ((b :: l).head?.any fun b =>
          b.descriptor.interfaceNumber == a.descriptor.interfaceNumber) = true := by
        simpa using hb
      rw [if_neg hplace, List.pairwise_cons]
      refine ⟨fun g hg d hd e he => ?_, ih (fun g hg => hne g (List.mem_cons_of_mem _ hg))
        (fun g hg => hnumber g (List.mem_cons_of_mem _ hg)) hrest⟩
      have hother : d.descriptor.interfaceNumber ≠ a.descriptor.interfaceNumber := by
        rw [hsame d hd b List.mem_cons_self]
        exact hb
      rcases mem_place hg with hg | rfl | ⟨k, hk, rfl, -⟩
      · exact hfirst g hg d hd e he
      · rw [List.mem_singleton.1 he]
        exact hother
      · rcases List.mem_append.1 he with he | he
        · exact hfirst k hk d hd e he
        · rw [List.mem_singleton.1 he]
          exact hother

/-- A new alternate joins the interface with its number, or is the first with that number. -/
theorem Assembled.grouped {c : Configuration} (h : c.Assembled) : c.Grouped := by
  induction h with
  | empty descriptor => exact List.Pairwise.nil
  | add hc descriptor endpoints ih =>
    have hregular := hc.regular
    exact pairwise_place hregular.nonempty hregular.number ih

/-- The first fit alternate of an interface is the first one of all, if fit ones have a number. -/
theorem find?_alternates_of_group {c : Configuration} (hc : c.Grouped) {n : UInt8}
    {test : Alternate → Bool} (htest : ∀ a, test a = true → a.descriptor.interfaceNumber = n)
    {i : Nat} {g : List Alternate} {a : Alternate} (hi : c.interfaces[i]? = some g)
    (ha : g.find? test = some a) : c.alternates.find? test = some a := by
  have hmem := List.mem_of_find?_eq_some ha
  have hn := htest a (List.find?_some ha)
  unfold Grouped at hc
  unfold alternates
  generalize c.interfaces = groups at hc hi
  induction groups generalizing i with
  | nil => cases hi
  | cons first rest ih =>
    obtain ⟨hfirst, hrest⟩ := List.pairwise_cons.1 hc
    rw [List.flatten_cons, List.find?_append]
    cases i with
    | zero =>
      cases hi
      rw [ha]
      rfl
    | succ i =>
      have hnone : first.find? test = none := by
        rw [List.find?_eq_none]
        intro b hb hfit
        exact hfirst g (List.mem_of_getElem? hi) b hb a hmem ((htest b hfit).trans hn.symm)
      rw [hnone]
      exact ih hrest hi

/-- The indices of a configuration fit in a byte, and alternate 0 is the first of each interface. -/
structure Fits (c : Configuration) : Prop where
  value : c.descriptor.configurationValue ≠ 0
  interfaces : c.interfaces.length ≤ 255
  alternates : ∀ g ∈ c.interfaces, g.length ≤ 256
  first : ∀ g ∈ c.interfaces, ∀ a ∈ g.head?, a.descriptor.alternateSetting = 0
  endpoints : ∀ g ∈ c.interfaces, ∀ a ∈ g, a.endpoints.length ≤ 255

instance (c : Configuration) : Decidable c.Fits :=
  decidable_of_iff (c.descriptor.configurationValue ≠ 0 ∧ c.interfaces.length ≤ 255 ∧
    (∀ g ∈ c.interfaces, g.length ≤ 256) ∧
    (∀ g ∈ c.interfaces, ∀ a ∈ g.head?, a.descriptor.alternateSetting = 0) ∧
    ∀ g ∈ c.interfaces, ∀ a ∈ g, a.endpoints.length ≤ 255)
    ⟨fun ⟨h₁, h₂, h₃, h₄, h₅⟩ => ⟨h₁, h₂, h₃, h₄, h₅⟩, fun ⟨h₁, h₂, h₃, h₄, h₅⟩ =>
      ⟨h₁, h₂, h₃, h₄, h₅⟩⟩

/-- The first alternate found for a number is its alternate 0. -/
theorem find?_alternates {c : Configuration} (hc : c.Regular) (hfits : c.Fits) (n : UInt8) :
    c.alternates.find? (fun a => a.descriptor.interfaceNumber == n) =
      c.alternates.find? (fun a => a.descriptor.interfaceNumber == n &&
        a.descriptor.alternateSetting == 0) := by
  have hne := hc.nonempty
  have hnumber := hc.number
  have hfirst := hfits.first
  unfold alternates
  generalize c.interfaces = groups at *
  induction groups with
  | nil => rfl
  | cons g rest ih =>
    have hrest := ih (fun g hg => hne g (List.mem_cons_of_mem _ hg))
      (fun g hg => hnumber g (List.mem_cons_of_mem _ hg))
      (fun g hg => hfirst g (List.mem_cons_of_mem _ hg))
    obtain ⟨a, l, rfl⟩ := List.exists_cons_of_ne_nil (hne g List.mem_cons_self)
    have hzero := hfirst _ List.mem_cons_self a rfl
    rw [List.flatten_cons, List.find?_append, List.find?_append, hrest]
    by_cases hn : a.descriptor.interfaceNumber = n
    · simp [hn, hzero]
    · -- No alternate of this interface has the number.
      have hnone : ∀ b ∈ a :: l, b.descriptor.interfaceNumber ≠ n := fun b hb =>
        hnumber _ List.mem_cons_self b hb a List.mem_cons_self ▸ hn
      have hleft : (a :: l).find? (fun a => a.descriptor.interfaceNumber == n) = none := by
        simpa using hnone
      have hright : (a :: l).find? (fun a => a.descriptor.interfaceNumber == n &&
          a.descriptor.alternateSetting == 0) = none := by
        rw [List.find?_eq_none]
        intro b hb
        simp [hnone b hb]
      rw [hleft, hright]

end Configuration

namespace Device

/-- Index 0 is the first configuration. -/
theorem getElem?_zero (d : Device) :
    d.configurations[(0 : UInt8).toNat]? = d.configurations.head? :=
  List.head?_eq_getElem?.symm

/-- The devices that are put together from such configurations. -/
inductive Assembled : Device → Prop
  | empty (descriptor : DeviceDescriptor) : Assembled (.ofDescriptor descriptor)
  | add {d : Device} (h : Assembled d) {c : Configuration} (hc : c.Assembled) :
    Assembled (d.addConfiguration c)
  | texts {d : Device} (h : Assembled d) (strings : List (List Char))
      (langidTable : Option (List UInt8)) : Assembled { d with strings, langidTable }
  | unconfigured {d : Device} (h : Assembled d) : Assembled { d with initialConfiguration := 0 }
  | withoutReadback {d : Device} (h : Assembled d) :
    Assembled { d with reportsConfiguration := false }
  | withKernelDriver {d : Device} (h : Assembled d) (number : UInt8) :
    Assembled { d with kernelDrivers := d.kernelDrivers.add number }

theorem Assembled.each {d : Device} (h : d.Assembled) :
    ∀ c ∈ d.configurations, c.Assembled := by
  induction h with
  | empty descriptor => exact fun c hc => by cases hc
  | @add d _ k hk ih =>
    intro c hc
    rcases List.mem_append.1 hc with hc | hc
    · exact ih c hc
    · rw [List.mem_singleton.1 hc]
      exact hk
  | texts _ _ _ ih => exact ih
  | unconfigured _ ih => exact ih
  | withoutReadback _ ih => exact ih
  | withKernelDriver _ _ ih => exact ih

structure Regular (d : Device) : Prop where
  numConfigurations : d.descriptor.numConfigurations = d.configurations.length.toUInt8
  configurations : ∀ c ∈ d.configurations, c.Regular

theorem Assembled.regular {d : Device} (h : d.Assembled) : d.Regular := by
  induction h with
  | empty descriptor => exact ⟨rfl, fun c hc => by cases hc⟩
  | add _ hc ih =>
    refine ⟨rfl, fun c hmem => ?_⟩
    rcases List.mem_append.1 hmem with hmem | hmem
    · exact ih.configurations c hmem
    · rw [List.mem_singleton.1 hmem]
      exact hc.regular
  | texts _ _ _ ih => exact ⟨ih.numConfigurations, ih.configurations⟩
  | unconfigured _ ih => exact ⟨ih.numConfigurations, ih.configurations⟩
  | withoutReadback _ ih => exact ⟨ih.numConfigurations, ih.configurations⟩
  | withKernelDriver _ _ ih => exact ⟨ih.numConfigurations, ih.configurations⟩

structure Fits (d : Device) : Prop where
  configurations : d.configurations.length ≤ 255
  each : ∀ c ∈ d.configurations, c.Fits

instance (d : Device) : Decidable d.Fits :=
  decidable_of_iff (d.configurations.length ≤ 255 ∧ ∀ c ∈ d.configurations, c.Fits)
    ⟨fun ⟨h₁, h₂⟩ => ⟨h₁, h₂⟩, fun ⟨h₁, h₂⟩ => ⟨h₁, h₂⟩⟩

end Device

end SerialBus.Loopback
