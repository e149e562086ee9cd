import Mathlib.Algebra.BigOperators.Group.List.Basic
import Mathlib.Algebra.GroupWithZero.Nat
import Mathlib.Data.List.Induction
import Mathlib.Data.List.Nodup
import SerialBus.Proofs.Loopback.Assembly

/-! The interfaces of a configuration that alternates were added to in any order: the alternates of
a number stand together as they were added, and the numbers stand in the order in which they first
appeared. -/
namespace SerialBus.Loopback

/-- What is added to a configuration at a time: an alternate with its endpoints. -/
abbrev Addition := InterfaceDescriptor × List EndpointDescriptor

namespace Addition

def number (x : Addition) : UInt8 := x.1.interfaceNumber

/-- The alternate as it is kept, which counts its endpoints. -/
def alternate (x : Addition) : Alternate :=
  ⟨{ x.1 with numEndpoints := x.2.length.toUInt8 }, x.2⟩

/-- The bytes of the descriptors of the alternate and its endpoints. -/
def wireLength (x : Addition) : Nat := 9 + 7 * x.2.length

end Addition

namespace Configuration

def ofAdditions (descriptor : ConfigurationDescriptor) (adds : List Addition) : Configuration :=
  adds.foldl (fun c x => c.addInterface x.1 x.2) (.ofDescriptor descriptor)

/-- The interface numbers in the order of their first appearance. -/
def numbers (adds : List Addition) : List UInt8 := (adds.map Addition.number).eraseDups

/-- The alternates with a number as they were added. -/
def alternatesOf (adds : List Addition) (n : UInt8) : List Alternate :=
  (adds.filter fun x => x.number == n).map Addition.alternate

def groups (adds : List Addition) : List (List Alternate) := (numbers adds).map (alternatesOf adds)

theorem mem_numbers {adds : List Addition} {n : UInt8} :
    n ∈ numbers adds ↔ ∃ x ∈ adds, x.number = n := by
  simp [numbers, List.mem_eraseDups]

theorem numbers_concat (adds : List Addition) (x : Addition) :
    numbers (adds ++ [x]) =
      if x.number ∈ numbers adds then numbers adds else numbers adds ++ [x.number] := by
  have hmem : x.number ∈ numbers adds ↔ x.number ∈ adds.map Addition.number := List.mem_eraseDups
  rw [numbers, List.map_append, List.eraseDups_append]
  by_cases hx : x.number ∈ numbers adds
  · have hgone : (List.map Addition.number [x]).removeAll (adds.map Addition.number) = [] := by
      simpa [List.removeAll] using hmem.1 hx
    rw [if_pos hx, hgone, List.eraseDups_nil, List.append_nil]
    rfl
  · have hkept : (List.map Addition.number [x]).removeAll (adds.map Addition.number) =
        [x.number] := by
      simpa [List.removeAll] using mt hmem.2 hx
    rw [if_neg hx, hkept]
    rfl

theorem nodup_numbers (adds : List Addition) : (numbers adds).Nodup := by
  induction adds using List.reverseRecOn with
  | nil => exact List.nodup_nil
  | append_singleton adds x ih =>
    rw [numbers_concat]
    split
    next => exact ih
    next hx =>
      rw [List.nodup_append]
      refine ⟨ih, List.nodup_singleton _, fun n hn m hm heq => ?_⟩
      rw [List.mem_singleton.1 hm] at heq
      exact hx (heq ▸ hn)

theorem alternatesOf_concat (adds : List Addition) (x : Addition) (n : UInt8) :
    alternatesOf (adds ++ [x]) n =
      if x.number = n then alternatesOf adds n ++ [x.alternate] else alternatesOf adds n := by
  unfold alternatesOf
  rw [List.filter_append, List.map_append]
  by_cases hn : x.number = n
  · simp [hn]
  · simp [hn]

/-- The alternates of a number that has appeared start with one of that number. -/
theorem head?_alternatesOf {adds : List Addition} {n : UInt8} (hn : n ∈ numbers adds) (m : UInt8) :
    (alternatesOf adds n).head?.any (fun b => b.descriptor.interfaceNumber == m) = (n == m) := by
  obtain ⟨x, hx, hnumber⟩ := mem_numbers.1 hn
  unfold alternatesOf
  cases hfilter : adds.filter (fun x => x.number == n) with
  | nil =>
    have hnone := List.filter_eq_nil_iff.1 hfilter x hx
    simp [hnumber] at hnone
  | cons first rest =>
    have hfirst : first ∈ adds.filter (fun x => x.number == n) := by
      rw [hfilter]
      exact List.mem_cons_self
    have heq : first.number = n := by simpa using (List.mem_filter.1 hfirst).2
    rw [← heq]
    rfl

/-- An alternate passes by the interfaces of other numbers. -/
theorem place_append {a : Alternate} {passed : List (List Alternate)}
    (hother : ∀ g ∈ passed, g.head?.any
      (fun b => b.descriptor.interfaceNumber == a.descriptor.interfaceNumber) = false)
    (rest : List (List Alternate)) : place a (passed ++ rest) = passed ++ place a rest := by
  induction passed with
  | nil => rfl
  | cons g passed ih =>
    have hskip := hother g List.mem_cons_self
    have hothers := fun l hl => hother l (List.mem_cons_of_mem _ hl)
    rw [List.cons_append, place, hskip, if_neg Bool.false_ne_true, ih hothers, List.cons_append]

/-- Further alternates of a number come behind those that it has. -/
theorem place_of_mem {f : UInt8 → List Alternate} {ns : List UInt8} {a : Alternate}
    (hhead : ∀ n ∈ ns, (f n).head?.any
      (fun b => b.descriptor.interfaceNumber == a.descriptor.interfaceNumber) =
        (n == a.descriptor.interfaceNumber))
    (hnodup : ns.Nodup) (ha : a.descriptor.interfaceNumber ∈ ns) :
    place a (ns.map f) =
      ns.map fun n => if a.descriptor.interfaceNumber = n then f n ++ [a] else f n := by
  induction ns with
  | nil => cases ha
  | cons n rest ih =>
    obtain ⟨hnew, hrest⟩ := List.nodup_cons.1 hnodup
    have htest := hhead n List.mem_cons_self
    rw [List.map_cons, List.map_cons, place, htest]
    by_cases heq : a.descriptor.interfaceNumber = n
    · have hothers : ∀ m ∈ rest,
          (if a.descriptor.interfaceNumber = m then f m ++ [a] else f m) = f m := by
        intro m hm
        apply if_neg
        intro h
        exact hnew (heq.symm.trans h ▸ hm)
      rw [heq, beq_self_eq_true, if_pos rfl, if_pos rfl, ← heq, List.map_congr_left hothers]
    · have ha' : a.descriptor.interfaceNumber ∈ rest := (List.mem_cons.1 ha).resolve_left heq
      have hhead' := fun m hm => hhead m (List.mem_cons_of_mem _ hm)
      rw [beq_false_of_ne (Ne.symm heq), if_neg Bool.false_ne_true, if_neg heq,
        ih hhead' hrest ha']

/-- The interfaces so far are of other numbers than a new one. -/
theorem head?_of_mem_groups {adds : List Addition} {g : List Alternate} (hg : g ∈ groups adds)
    {n : UInt8} (hn : n ∉ numbers adds) :
    g.head?.any (fun b => b.descriptor.interfaceNumber == n) = false := by
  obtain ⟨m, hm, rfl⟩ := List.mem_map.1 hg
  have hne : m ≠ n := fun heq => hn (heq ▸ hm)
  rw [head?_alternatesOf hm, beq_false_of_ne hne]

theorem groups_concat (adds : List Addition) (x : Addition) :
    groups (adds ++ [x]) = place x.alternate (groups adds) := by
  by_cases hx : x.number ∈ numbers adds
  · have hhead : ∀ n ∈ numbers adds, (alternatesOf adds n).head?.any
        (fun b => b.descriptor.interfaceNumber == x.alternate.descriptor.interfaceNumber) =
          (n == x.alternate.descriptor.interfaceNumber) := fun n hn => head?_alternatesOf hn _
    unfold groups
    rw [numbers_concat, if_pos hx, place_of_mem hhead (nodup_numbers adds) hx]
    apply List.map_congr_left
    intro n _
    exact alternatesOf_concat adds x n
  · have hothers : ∀ n ∈ numbers adds, alternatesOf (adds ++ [x]) n = alternatesOf adds n := by
      intro n hn
      rw [alternatesOf_concat]
      apply if_neg
      intro heq
      exact hx (heq ▸ hn)
    have hnone : alternatesOf adds x.number = [] := by
      unfold alternatesOf
      rw [List.filter_eq_nil_iff.2, List.map_nil]
      intro y hy
      have hne : y.number ≠ x.number := fun heq => hx (mem_numbers.2 ⟨y, hy, heq⟩)
      simpa using hne
    have hlast : alternatesOf (adds ++ [x]) x.number = [x.alternate] := by
      rw [alternatesOf_concat, if_pos rfl, hnone, List.nil_append]
    have hplace : place x.alternate (groups adds) = groups adds ++ [[x.alternate]] := by
      have hbehind := place_append (a := x.alternate) (fun g hg => head?_of_mem_groups hg hx) []
      rwa [List.append_nil] at hbehind
    rw [hplace]
    unfold groups
    rw [numbers_concat, if_neg hx, List.map_append, List.map_congr_left hothers,
      List.map_singleton, hlast]

/-- Alternates of one new number that are added one after another are one more interface. -/
theorem groups_append {adds g : List Addition} {n : UInt8} (hne : g ≠ [])
    (hg : ∀ x ∈ g, x.number = n) (hn : n ∉ numbers adds) :
    groups (adds ++ g) = groups adds ++ [g.map Addition.alternate] := by
  induction g using List.reverseRecOn with
  | nil => exact absurd rfl hne
  | append_singleton g x ih =>
    have hx : x.number = n := hg x (List.mem_append_right _ List.mem_cons_self)
    have hinit : ∀ y ∈ g, y.number = n := fun y hy => hg y (List.mem_append_left _ hy)
    have hothers : ∀ l ∈ groups adds, l.head?.any
        (fun b => b.descriptor.interfaceNumber == x.alternate.descriptor.interfaceNumber) =
          false := by
      intro l hl
      apply head?_of_mem_groups hl
      rw [← hx] at hn
      exact hn
    rw [← List.append_assoc, groups_concat]
    cases g with
    | nil =>
      have hbehind := place_append hothers []
      rw [List.append_nil] at hbehind ⊢
      exact hbehind
    | cons first rest =>
      have hsame : (first.alternate.descriptor.interfaceNumber ==
          x.alternate.descriptor.interfaceNumber) = true := by
        have hfirst := hinit first List.mem_cons_self
        exact beq_iff_eq.2 (hfirst.trans hx.symm)
      rw [ih (List.cons_ne_nil _ _) hinit, place_append hothers, List.map_append, List.map_cons,
        place, List.head?_cons, Option.any_some, if_pos hsame]
      rfl

/-- Interfaces of different numbers, added one after another, are what stands there in the end. -/
theorem groups_flatten {interfaces : List (List Addition)} (hne : ∀ g ∈ interfaces, g ≠ [])
    (hsame : ∀ g ∈ interfaces, ∀ x ∈ g, ∀ y ∈ g, x.number = y.number)
    (hdistinct : interfaces.Pairwise fun g l => ∀ x ∈ g, ∀ y ∈ l, x.number ≠ y.number) :
    groups interfaces.flatten = interfaces.map fun g => g.map Addition.alternate := by
  induction interfaces using List.reverseRecOn with
  | nil => rfl
  | append_singleton interfaces g ih =>
    obtain ⟨hinit, -, hbefore⟩ := List.pairwise_append.1 hdistinct
    have hlast : g ∈ interfaces ++ [g] := List.mem_append_right _ List.mem_cons_self
    obtain ⟨x, rest, rfl⟩ := List.exists_cons_of_ne_nil (hne g hlast)
    have hnumber : ∀ y ∈ x :: rest, y.number = x.number := fun y hy =>
      hsame _ hlast y hy x List.mem_cons_self
    have hnew : x.number ∉ numbers interfaces.flatten := by
      intro hmem
      obtain ⟨y, hy, heq⟩ := mem_numbers.1 hmem
      obtain ⟨l, hl, hyl⟩ := List.mem_flatten.1 hy
      exact hbefore l hl _ List.mem_cons_self y hyl x List.mem_cons_self heq
    have hrest := ih (fun l hl => hne l (List.mem_append_left _ hl))
      (fun l hl => hsame l (List.mem_append_left _ hl)) hinit
    rw [List.flatten_append, List.flatten_singleton,
      groups_append (List.cons_ne_nil _ _) hnumber hnew, hrest, List.map_append]
    rfl

theorem ofAdditions_concat (descriptor : ConfigurationDescriptor) (adds : List Addition)
    (x : Addition) :
    ofAdditions descriptor (adds ++ [x]) = (ofAdditions descriptor adds).addInterface x.1 x.2 := by
  rw [ofAdditions, List.foldl_append]
  rfl

theorem interfaces_ofAdditions (descriptor : ConfigurationDescriptor) (adds : List Addition) :
    (ofAdditions descriptor adds).interfaces = groups adds := by
  induction adds using List.reverseRecOn with
  | nil => rfl
  | append_singleton adds x ih =>
    rw [ofAdditions_concat, groups_concat, ← ih]
    rfl

theorem assembled_ofAdditions (descriptor : ConfigurationDescriptor) (adds : List Addition) :
    (ofAdditions descriptor adds).Assembled := by
  induction adds using List.reverseRecOn with
  | nil => exact .empty descriptor
  | append_singleton adds x ih =>
    rw [ofAdditions_concat]
    exact .add ih x.1 x.2

/-! Nothing is lost in the groups. -/

theorem perm_place (a : Alternate) (groups : List (List Alternate)) :
    (place a groups).flatten.Perm (groups.flatten ++ [a]) := by
  induction groups with
  | nil => exact List.Perm.refl _
  | cons g rest ih =>
    rw [place]
    split
    · rw [List.flatten_cons, List.flatten_cons, List.append_assoc, List.append_assoc]
      exact List.perm_append_comm.append_left g
    · rw [List.flatten_cons, List.flatten_cons, List.append_assoc]
      exact ih.append_left g

theorem perm_groups (adds : List Addition) :
    (groups adds).flatten.Perm (adds.map Addition.alternate) := by
  induction adds using List.reverseRecOn with
  | nil => exact List.Perm.refl _
  | append_singleton adds x ih =>
    rw [groups_concat, List.map_append]
    exact (perm_place _ _).trans (ih.append_right _)

theorem wireLength_groups (adds : List Addition) :
    wireLength (groups adds) = 9 + (adds.map Addition.wireLength).sum := by
  have hperm := (perm_groups adds).map fun a : Alternate => 9 + 7 * a.endpoints.length
  rw [List.map_map] at hperm
  exact congrArg (9 + ·) hperm.sum_eq

/-- The counts in the descriptor follow what was added, and the rest of it is as it was given. -/
theorem descriptor_ofAdditions (descriptor : ConfigurationDescriptor) {adds : List Addition}
    (hadds : adds ≠ []) :
    (ofAdditions descriptor adds).descriptor = { descriptor with
      numInterfaces := (numbers adds).length.toUInt8
      totalLength := (9 + (adds.map Addition.wireLength).sum).toUInt16 } := by
  have hrest : ∀ adds, ∃ count total, (ofAdditions descriptor adds).descriptor =
      { descriptor with numInterfaces := count, totalLength := total } := by
    intro adds
    induction adds using List.reverseRecOn with
    | nil => exact ⟨_, _, rfl⟩
    | append_singleton adds x ih =>
      obtain ⟨count, total, heq⟩ := ih
      rw [ofAdditions_concat]
      exact ⟨_, _, by rw [addInterface, heq]⟩
  induction adds using List.reverseRecOn with
  | nil => exact absurd rfl hadds
  | append_singleton adds x _ =>
    obtain ⟨count, total, heq⟩ := hrest adds
    have hlength : (numbers (adds ++ [x])).length = (groups (adds ++ [x])).length := by
      simp [groups]
    rw [ofAdditions_concat, addInterface, heq, interfaces_ofAdditions, hlength,
      ← wireLength_groups, groups_concat]
    rfl

theorem mem_groups {adds : List Addition} {g : List Alternate} (hg : g ∈ groups adds) :
    ∃ n, g = alternatesOf adds n := by
  obtain ⟨n, -, rfl⟩ := List.mem_map.1 hg
  exact ⟨n, rfl⟩

end Configuration

end SerialBus.Loopback
