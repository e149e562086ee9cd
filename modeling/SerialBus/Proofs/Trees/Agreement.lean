import SerialBus.Proofs.Loopback.Reading
import SerialBus.Proofs.Trees.Native

/-! One tree of descriptors, read from the library and from a bus in memory. Both backends tell the
same of it, whatever index they are asked for. -/
namespace SerialBus

open SerialBus.Action Loopback

/-! The tree on a bus in memory. -/

/-- The configuration that its alternates are added to in order. -/
def ConfigurationTree.built (k : ConfigurationTree) : Configuration :=
  .ofAdditions k.descriptor k.interfaces.flatten

/-- The device that its configurations are added to in order. -/
def Tree.built (t : Tree) (descriptor : DeviceDescriptor) : Loopback.Device :=
  t.foldl (fun d k => d.addConfiguration k.built) (.ofDescriptor descriptor)

theorem Tree.configurations_built (t : Tree) (descriptor : DeviceDescriptor) :
    (t.built descriptor).configurations = t.map ConfigurationTree.built := by
  induction t using List.reverseRecOn with
  | nil => rfl
  | append_singleton t k ih =>
    rw [Tree.built, List.foldl_append, List.map_append, ← ih]
    rfl

namespace ConfigurationTree.Standard

variable {k : ConfigurationTree} (hk : k.Standard)

include hk

theorem groups_flatten :
    Configuration.groups k.interfaces.flatten = k.interfaces.map fun g => g.map Addition.alternate :=
  Configuration.groups_flatten (fun g hg => (hk.alternates g hg).1) hk.number hk.distinct

theorem interfaces_built :
    k.built.interfaces = k.interfaces.map fun g => g.map Addition.alternate := by
  rw [built, Configuration.interfaces_ofAdditions, hk.groups_flatten]

theorem flatten_ne_nil : k.interfaces.flatten ≠ [] := by
  obtain ⟨g, rest, heq⟩ := List.exists_cons_of_ne_nil hk.nonempty
  have hg : g ≠ [] := (hk.alternates g (heq ▸ List.mem_cons_self)).1
  rw [heq, List.flatten_cons]
  exact List.append_ne_nil_of_left_ne_nil hg _

theorem descriptor_built : k.built.descriptor = k.counted := by
  have hlength : (Configuration.numbers k.interfaces.flatten).length = k.interfaces.length := by
    have hgroups := congrArg List.length hk.groups_flatten
    simpa [Configuration.groups] using hgroups
  rw [built, Configuration.descriptor_ofAdditions k.descriptor hk.flatten_ne_nil, hlength]
  rfl

end ConfigurationTree.Standard

/-- A bus in memory has a device that was built from the tree, and fails at nothing. -/
structure Loopback.Bus.Serves (l : Loopback.Bus) (id : DeviceId) (t : Tree) : Prop where
  device : ∃ d descriptor, l.device? id = some d ∧
    d.spec.configurations = (t.built descriptor).configurations
  failures : l.failures = ∅

namespace Tree

section

variable {t : Tree} (ht : ∀ k ∈ t, k.Standard)

section

variable {spec : Loopback.Device} (hspec : spec.configurations = t.map ConfigurationTree.built)

include hspec

theorem configurationOf_built (config : UInt8) :
    Bus.configurationOf spec config =
      (t.configurationAt config).map ConfigurationTree.built := by
  rw [Bus.configurationOf, hspec, List.getElem?_map, configurationAt, itemAt]
  cases t[config.toNat]? <;> rfl

include ht

theorem alternateOf_built (interface alternate config : UInt8) :
    Bus.alternateOf spec interface alternate config =
      (t.alternateAt interface alternate config).map Addition.alternate := by
  rw [Bus.alternateOf, configurationOf_built hspec, alternateAt]
  cases hk : t.configurationAt config with
  | error e => rfl
  | ok k =>
    have hinterfaces := (ht k (mem_of_itemAt hk)).interfaces_built
    simp only [Except.map, Except.bind, hinterfaces, itemAt, List.getElem?_map]
    cases k.interfaces[interface.toNat]? with
    | none => rfl
    | some g =>
      simp only [Option.map_some, List.getElem?_map]
      cases g[alternate.toNat]? <;> rfl

theorem endpointOf_built (endpoint interface alternate config : UInt8) :
    Bus.endpointOf spec endpoint interface alternate config =
      t.endpointAt endpoint interface alternate config := by
  rw [Bus.endpointOf, alternateOf_built ht hspec, endpointAt]
  cases t.alternateAt interface alternate config with
  | error e => rfl
  | ok x =>
    simp only [Except.map, Except.bind, Addition.alternate, itemAt]
    cases x.2[endpoint.toNat]? <;> rfl

end

include ht

theorem toldBy_native {L D H : Type} [Native.Located D] [Native.Libusb L D H]
    {n : Native.Client L D H} {id : DeviceId} (hn : n.Reports id t) (hcount : t.length ≤ 255) :
    t.ToldBy n id := by
  obtain ⟨d, hd, I, hI, htold⟩ := hn
  constructor
  case configuration =>
    intro config
    have hread := Native.answers_configurationAt (H := H) htold hcount config
    have hfound : Backend.configurationDescriptor id config n =
        (Native.Client.configurationAt d config >>= fun c => pure c.descriptor) n :=
      Native.Client.withDevice_of_some _ hd
    rw [outcome_congr hfound, outcome_bind_pure]
    exact hread.map_outcome (fun k c _ hk hc => hc.descriptor_eq (ht k (mem_of_itemAt hk))) hI
  case interface =>
    intro interface alternate config
    have hread := Native.answers_alternateAt (H := H) htold hcount interface alternate config
    have hfound : Backend.interfaceDescriptor id interface alternate config n =
        (Native.Client.alternateAt d interface alternate config >>= fun a => pure a.descriptor) n :=
      Native.Client.withDevice_of_some _ hd
    rw [outcome_congr hfound, outcome_bind_pure]
    exact hread.map_outcome (fun x a _ hx ha =>
      ha.descriptor_eq (standard_of_alternateAt ht hx)) hI
  case endpoint =>
    intro endpoint interface alternate config
    have hread := Native.answers_endpointAt (H := H) htold hcount endpoint interface alternate config
    have hfound : Backend.endpointDescriptor id endpoint interface alternate config n =
        (Native.Client.endpointAt d endpoint interface alternate config >>=
          fun p => pure p.descriptor) n :=
      Native.Client.withDevice_of_some _ hd
    have hsame := hread.map_outcome (f := Native.Decoded.Endpoint.descriptor) (g := fun e => e) ?_ hI
    · rw [outcome_congr hfound, outcome_bind_pure, hsame]
      cases t.endpointAt endpoint interface alternate config <;> rfl
    · intro e p s he hp
      exact hp.descriptor_eq (standard_of_endpointAt ht he)

theorem toldBy_loopback {l : Loopback.Bus} {id : DeviceId} (hl : l.Serves id t) : t.ToldBy l id := by
  obtain ⟨⟨d, descriptor, hd, hspec⟩, hf⟩ := hl
  rw [configurations_built] at hspec
  constructor
  case configuration =>
    intro config
    have hread := (gives_configurationDescriptor hf hd config l rfl).1
    rw [hread, configurationOf_built hspec]
    cases hk : t.configurationAt config with
    | error e => rfl
    | ok k =>
      have hdescriptor := (ht k (mem_of_itemAt hk)).descriptor_built
      exact congrArg Except.ok hdescriptor
  case interface =>
    intro interface alternate config
    have hread := (gives_interfaceDescriptor hf hd interface alternate config l rfl).1
    rw [hread, alternateOf_built ht hspec]
    cases t.alternateAt interface alternate config <;> rfl
  case endpoint =>
    intro endpoint interface alternate config
    have hread := (gives_endpointDescriptor hf hd endpoint interface alternate config l rfl).1
    rw [hread, endpointOf_built ht hspec]

end

/-- A standard tree that the library reports without errors is told alike by the backend on the
library and by a bus in memory that the tree was built up on. Both give the descriptor that the
indices lead to, with the counts of the tree, or the same error for the first index out of range. -/
theorem told_alike_by_both_backends {t : Tree} (hcount : t.length ≤ 255) (ht : ∀ k ∈ t, k.Standard)
    {L D H : Type} [Native.Located D] [Native.Libusb L D H] {n : Native.Client L D H}
    {l : Loopback.Bus} {nid lid : DeviceId} (hn : n.Reports nid t) (hl : l.Serves lid t) :
    t.ToldBy n nid ∧ t.ToldBy l lid ∧ ∀ config interface alternate endpoint : UInt8,
      outcome (Backend.configurationDescriptor nid config) n =
        outcome (Backend.configurationDescriptor lid config) l ∧
      outcome (Backend.interfaceDescriptor nid interface alternate config) n =
        outcome (Backend.interfaceDescriptor lid interface alternate config) l ∧
      outcome (Backend.endpointDescriptor nid endpoint interface alternate config) n =
        outcome (Backend.endpointDescriptor lid endpoint interface alternate config) l := by
  have hnative := toldBy_native ht hn hcount
  have hloopback := toldBy_loopback ht hl
  refine ⟨hnative, hloopback, fun config interface alternate endpoint => ⟨?_, ?_, ?_⟩⟩
  · rw [hnative.configuration, hloopback.configuration]
  · rw [hnative.interface, hloopback.interface]
  · rw [hnative.endpoint, hloopback.endpoint]

/-- Two interfaces, the second one with two alternates. -/
theorem told_alike_by_both_backends_twoInterfaces :
    let t : Tree := [⟨{ attributes := 0xC0 }, [
      [({ interfaceNumber := 5 }, [{ endpointAddress := 0x81 }])],
      [({ interfaceNumber := 3 }, []), ({ interfaceNumber := 3, alternateSetting := 1 }, [])]]⟩]
    let attached : List Native.Device := [{ configurations := t.map Native.Configuration.ofTree }]
    let n := after (Backend.devices : Action Native.Bus _) ⟨{ attached }, {}⟩
    let l : Loopback.Bus := .ofDevices [t.built {}]
    (outcome (Backend.configurationDescriptor ⟨1⟩ 0) n =
        .ok { totalLength := 43, numInterfaces := 2, attributes := 0xC0 } ∧
      outcome (Backend.endpointDescriptor ⟨0⟩ 0 1 2 0) l =
        .error (.invalidDescriptorIndex .alternateSetting 2)) ∧
      outcome (Backend.interfaceDescriptor ⟨1⟩ 1 1 0) n =
        outcome (Backend.interfaceDescriptor ⟨0⟩ 1 1 0) l := by
  intro t attached n l
  have ht : ∀ k ∈ t, k.Standard := by
    intro k hk
    rw [List.mem_singleton.1 hk]
    constructor <;> decide
  have hn : n.Reports ⟨1⟩ t := Native.Client.reports_of_known rfl rfl rfl rfl rfl
  have hl : l.Serves ⟨0⟩ t := ⟨⟨_, {}, rfl, rfl⟩, rfl⟩
  obtain ⟨hnative, hloopback, hsame⟩ := told_alike_by_both_backends (by decide) ht hn hl
  constructor
  · exact ⟨hnative.configuration 0, hloopback.endpoint 0 1 2 0⟩
  · exact (hsame 0 1 1 0).2.1

end Tree

end SerialBus
