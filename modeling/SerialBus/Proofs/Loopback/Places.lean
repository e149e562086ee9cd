import Mathlib.Data.List.Forall2
import SerialBus.Proofs.Loopback.Walk

/-! Where the alternates of a configuration stand. A search by position finds the place of the very
alternate that a search through the alternates themselves finds. -/
namespace SerialBus.Loopback

open SerialBus.Action

/-- The place is that of the alternate in the configuration, whose descriptor it repeats. -/
structure Located (spec : Device) (config : UInt8) (l : InterfaceLocation) (a : Alternate) : Prop where
  config : l.config = config
  descriptor : l.descriptor = a.descriptor
  alternate : Bus.alternateOf spec l.index l.alternateIndex l.config = .ok a

/-- The places of all alternates of a configuration, in order. -/
def places (config : UInt8) (k : Configuration) : List InterfaceLocation :=
  interfacesFrom config 0 k.interfaces

section

variable {d : DeviceState} {config : UInt8} {k : Configuration}
  (hk : d.spec.configurations[config.toNat]? = some k) (hfits : k.Fits)

include hk hfits

theorem located_alternatesFrom {i j : Nat} {g rest : List Alternate}
    (hi : k.interfaces[i]? = some g) (hrest : g.drop j = rest) :
    List.Forall₂ (Located d.spec config) (alternatesFrom config i j rest) rest := by
  obtain ⟨hlt, hg⟩ := List.getElem?_eq_some_iff.1 hi
  have hcount := hfits.interfaces
  have hsize : g.length ≤ 256 := hfits.alternates g (hg ▸ List.getElem_mem hlt)
  induction rest generalizing j with
  | nil => exact .nil
  | cons a rest ih =>
    have ha : g[j]? = some a := by
      rw [← Nat.add_zero j, ← List.getElem?_drop, hrest]
      rfl
    obtain ⟨hj, -⟩ := List.getElem?_eq_some_iff.1 ha
    refine .cons ⟨rfl, rfl, ?_⟩ (ih ?_)
    · rw [alternateOf_eq hk, toNat_toUInt8 (by omega), toNat_toUInt8 (by omega), hi]
      dsimp only
      rw [ha]
    · rw [← List.drop_drop, hrest]
      rfl

theorem located_interfacesFrom {i : Nat} {rest : List (List Alternate)}
    (hrest : k.interfaces.drop i = rest) :
    List.Forall₂ (Located d.spec config) (interfacesFrom config i rest) rest.flatten := by
  induction rest generalizing i with
  | nil => exact .nil
  | cons g rest ih =>
    have hi : k.interfaces[i]? = some g := by
      rw [← Nat.add_zero i, ← List.getElem?_drop, hrest]
      rfl
    refine List.rel_append (located_alternatesFrom hk hfits hi rfl) (ih ?_)
    rw [← List.drop_drop, hrest]
    rfl

/-- The places of a configuration are those of its alternates. -/
theorem located_places : List.Forall₂ (Located d.spec config) (places config k) k.alternates :=
  located_interfacesFrom hk hfits rfl

end

/-- Searches through two lists that correspond find what corresponds. -/
theorem find?_of_forall₂ {α β : Type} {R : α → β → Prop} {xs : List α} {ys : List β}
    (h : List.Forall₂ R xs ys) {p : α → Bool} {q : β → Bool} (hpq : ∀ x y, R x y → p x = q y) :
    xs.find? p = none ∧ ys.find? q = none ∨
      ∃ x y, xs.find? p = some x ∧ ys.find? q = some y ∧ R x y := by
  induction h with
  | nil => exact .inl ⟨rfl, rfl⟩
  | @cons x y xs ys hxy _ ih =>
    rw [List.find?_cons, List.find?_cons, hpq x y hxy]
    cases q y with
    | true => exact .inr ⟨x, y, rfl, rfl, hxy⟩
    | false => exact ih

theorem length_interfacesFrom_le {config : UInt8} {i : Nat} {groups : List (List Alternate)}
    (hsize : ∀ g ∈ groups, g.length ≤ 256) :
    (interfacesFrom config i groups).length ≤ groups.length * 256 := by
  have hg : ∀ (g : List Alternate) (i j : Nat), (alternatesFrom config i j g).length = g.length := by
    intro g
    induction g with
    | nil => exact fun _ _ => rfl
    | cons a rest ih => exact fun i j => congrArg (· + 1) (ih i (j + 1))
  induction groups generalizing i with
  | nil => exact Nat.le_refl 0
  | cons g rest ih =>
    have hrest := ih (i := i + 1) fun g hg => hsize g (List.mem_cons_of_mem _ hg)
    have hlen := hsize g List.mem_cons_self
    rw [interfacesFrom, List.length_append, hg, List.length_cons]
    omega

/-- A walk that starts has all alternates before it, and steps enough to come by them. -/
theorem ahead_start (id : DeviceId) (config : UInt8) {groups : List (List Alternate)}
    (hcount : groups.length ≤ 255) (hne : ∀ g ∈ groups, g ≠ [])
    (hsize : ∀ g ∈ groups, g.length ≤ 256) :
    Ahead id config groups (walkAt id config groups.length 0 0) (interfacesFrom config 0 groups) ∧
    (interfacesFrom config 0 groups).length ≤ (walkAt id config groups.length 0 0).remaining := by
  have hlen : (interfacesFrom config 0 groups).length ≤ _ := length_interfacesFrom_le hsize
  cases groups with
  | nil => exact ⟨.before (.ended rfl), Nat.zero_le _⟩
  | cons g rest =>
    constructor
    · exact .before (.here rfl (List.length_pos_iff.2 (hne g List.mem_cons_self)))
    · have hopen : (walkAt id config (g :: rest).length 0 0).finished = _ :=
        finished_walkAt hcount (Nat.zero_le _)
      rw [InterfaceWalk.remaining, hopen]
      have hcount8 : (walkAt id config (g :: rest).length 0 0).numInterfaces.toNat =
          (g :: rest).length := toNat_toUInt8 (by omega)
      rw [hcount8]
      simpa [walkAt] using hlen

section

variable {id : DeviceId} {c : Bus} {d : DeviceState} {config : UInt8} {k : Configuration}
  (hf : c.failures = ∅) (hd : c.device? id = some d)
  (hk : d.spec.configurations[config.toNat]? = some k) (hregular : k.Regular) (hfits : k.Fits)

/-- The walk through a whole configuration. -/
def wholeWalk (id : DeviceId) (config : UInt8) (k : Configuration) : InterfaceWalk :=
  { device := id, config, numInterfaces := k.descriptor.numInterfaces }

omit hf hd hk in
theorem wholeWalk_eq (id : DeviceId) (config : UInt8) (hregular : k.Regular) :
    wholeWalk id config k = walkAt id config k.interfaces.length 0 0 := by
  rw [wholeWalk, hregular.numInterfaces]
  rfl

omit hf hd hk in
theorem ahead_wholeWalk (id : DeviceId) (config : UInt8) (hregular : k.Regular) (hfits : k.Fits) :
    Ahead id config k.interfaces (wholeWalk id config k) (places config k) ∧
    (places config k).length ≤ (wholeWalk id config k).remaining := by
  rw [wholeWalk_eq id config hregular]
  exact ahead_start id config hfits.interfaces hregular.nonempty hfits.alternates

include hf hd hk hregular hfits

theorem gives_find (test : InterfaceLocation → Bool) : Gives (AtCore c)
    (InterfaceWalk.cursor.find test (wholeWalk id config k)) (.ok ((places config k).find? test))
      (AtCore c) := by
  obtain ⟨hahead, hlen⟩ := ahead_wholeWalk id config hregular hfits
  exact gives_findUpTo hf hd hk hfits.interfaces hregular.nonempty hfits.alternates test hahead hlen

theorem gives_filter (test : InterfaceLocation → Bool) : Gives (AtCore c)
    (InterfaceWalk.cursor.filter test (wholeWalk id config k))
      (.ok ((places config k).filter test)) (AtCore c) := by
  obtain ⟨hahead, hlen⟩ := ahead_wholeWalk id config hregular hfits
  exact gives_filterUpTo hf hd hk hfits.interfaces hregular.nonempty hfits.alternates test hahead
    hlen

end

/-! What is read by its position. -/

/-- What is read of a list, with the positions. -/
def numbered {α β : Type} (f : α → β) (xs : List α) : List (UInt8 × β) :=
  xs.mapIdx fun i x => (i.toUInt8, f x)

theorem forall₂_numbered {α β : Type} (f : α → β) (xs : List α) (hlen : xs.length ≤ 256) :
    List.Forall₂ (fun p x => p.2 = f x ∧ xs[p.1.toNat]? = some x) (numbered f xs) xs := by
  refine List.forall₂_iff_get.2 ⟨List.length_mapIdx, fun i h₁ h₂ => ?_⟩
  simp only [numbered, List.get_eq_getElem, List.getElem_mapIdx, true_and]
  rw [toNat_toUInt8 (by omega)]
  exact List.getElem?_eq_getElem h₂

section

variable {id : DeviceId} {c : Bus} {d : DeviceState}
  (hf : c.failures = ∅) (hd : c.device? id = some d)

include hf hd

theorem gives_findConfiguration (hlen : d.spec.configurations.length ≤ 255)
    (test : UInt8 × ConfigurationDescriptor → Bool) : Gives (AtCore c)
    ((Device.configurationCursor id d.spec.configurations.length).find test 0)
    (.ok ((numbered (·.descriptor) d.spec.configurations).find? test)) (AtCore c) := by
  have hfind := gives_find_ofIndex (P := AtCore c) (numbered (·.descriptor) d.spec.configurations)
    (fun i => return (i.toUInt8, ← Backend.configurationDescriptor id i.toUInt8))
    (fun i x hx => by
      rw [numbered, List.getElem?_mapIdx] at hx
      obtain ⟨k, hk, rfl⟩ := Option.map_eq_some_iff.1 hx
      obtain ⟨hlt, -⟩ := List.getElem?_eq_some_iff.1 hk
      have hread := gives_configurationDescriptor hf hd i.toUInt8
      rw [Bus.configurationOf, toNat_toUInt8 (by omega), hk] at hread
      exact hread.bind (gives_pure _)) test
  rw [numbered, List.length_mapIdx] at hfind
  exact hfind

/-- The search through as many endpoints as the place counts. -/
theorem gives_findCounted {l : InterfaceLocation} {a : Alternate}
    (ha : Bus.alternateOf d.spec l.index l.alternateIndex l.config = .ok a)
    (hcount : l.descriptor.numEndpoints.toNat ≤ a.endpoints.length)
    (test : UInt8 × EndpointDescriptor → Bool) :
    Gives (AtCore c) ((Device.endpointCursor id l).find test 0)
      (.ok ((numbered (fun e => e)
        (a.endpoints.take l.descriptor.numEndpoints.toNat)).find? test)) (AtCore c) := by
  have hbyte := UInt8.toNat_lt l.descriptor.numEndpoints
  have hfind := gives_find_ofIndex (P := AtCore c)
    (numbered (fun e => e) (a.endpoints.take l.descriptor.numEndpoints.toNat))
    (fun i => return (i.toUInt8,
      ← Backend.endpointDescriptor id i.toUInt8 l.index l.alternateIndex l.config))
    (fun i x hx => by
      rw [numbered, List.getElem?_mapIdx] at hx
      obtain ⟨e, he, rfl⟩ := Option.map_eq_some_iff.1 hx
      rw [List.getElem?_take, Option.ite_none_right_eq_some] at he
      obtain ⟨hlt, he⟩ := he
      have hread := gives_endpointDescriptor hf hd i.toUInt8 l.index l.alternateIndex l.config
      rw [Bus.endpointOf, ha] at hread
      simp only [Except.bind, toNat_toUInt8 (show i < 256 by omega), he] at hread
      exact hread.bind (gives_pure _)) test
  rw [numbered, List.length_mapIdx, List.length_take_of_le hcount] at hfind
  exact hfind

theorem gives_findEndpoint {l : InterfaceLocation} {a : Alternate} {config : UInt8}
    (hl : Located d.spec config l a)
    (hcount : a.descriptor.numEndpoints = a.endpoints.length.toUInt8)
    (hlen : a.endpoints.length ≤ 255) (test : UInt8 × EndpointDescriptor → Bool) :
    Gives (AtCore c) ((Device.endpointCursor id l).find test 0)
      (.ok ((numbered (fun e => e) a.endpoints).find? test)) (AtCore c) := by
  have hall : l.descriptor.numEndpoints.toNat = a.endpoints.length := by
    rw [hl.descriptor, hcount, toNat_toUInt8 (by omega)]
  have hfind := gives_findCounted hf hd hl.alternate (Nat.le_of_eq hall) test
  rw [hall, List.take_length] at hfind
  exact hfind

end

end SerialBus.Loopback
