import SerialBus.Proofs.Loopback.Reading

/-! The walk through the alternate settings of a loopback configuration. It comes by each alternate
once, in the order of the interfaces and, for each of them, of its alternates. -/
namespace SerialBus.Loopback

open SerialBus.Action

/-- The places of alternates of interface `i`, the first of them alternate `j`. -/
def alternatesFrom (config : UInt8) (i : Nat) : Nat → List Alternate → List InterfaceLocation
  | _, [] => []
  | j, a :: rest =>
    ⟨config, i.toUInt8, j.toUInt8, a.descriptor⟩ :: alternatesFrom config i (j + 1) rest

/-- The places of the alternates of interfaces, the first of them interface `i`. -/
def interfacesFrom (config : UInt8) : Nat → List (List Alternate) → List InterfaceLocation
  | _, [] => []
  | i, g :: rest => alternatesFrom config i 0 g ++ interfacesFrom config (i + 1) rest

/-- The walk at a place, in a configuration with `count` interfaces. -/
def walkAt (id : DeviceId) (config : UInt8) (count i j : Nat) : InterfaceWalk where
  device := id
  config
  numInterfaces := count.toUInt8
  interface := i.toUInt8
  alternate := j.toUInt8

/-- What a walk has before it that is over, or that stands at an alternate. -/
inductive Before (id : DeviceId) (config : UInt8) (groups : List (List Alternate)) :
    InterfaceWalk → List InterfaceLocation → Prop
  | ended {w : InterfaceWalk} (h : w.finished = true) : Before id config groups w []
  | here {i j : Nat} {g : List Alternate} (hi : groups[i]? = some g) (hj : j < g.length) :
    Before id config groups (walkAt id config groups.length i j)
      (alternatesFrom config i j (g.drop j) ++ interfacesFrom config (i + 1) (groups.drop (i + 1)))

/-- What a walk has before it, also where it has come by the last alternate of an interface. -/
inductive Ahead (id : DeviceId) (config : UInt8) (groups : List (List Alternate)) :
    InterfaceWalk → List InterfaceLocation → Prop
  | before {w : InterfaceWalk} {l : List InterfaceLocation} (h : Before id config groups w l) :
    Ahead id config groups w l
  | behind {i j : Nat} {g : List Alternate} (hi : groups[i]? = some g) (hj : j = g.length)
    (hpos : 0 < j) (hfits : j ≤ 255) : Ahead id config groups (walkAt id config groups.length i j)
      (interfacesFrom config (i + 1) (groups.drop (i + 1)))

section

variable {id : DeviceId} {config : UInt8} {groups : List (List Alternate)}
  (hcount : groups.length ≤ 255) (hne : ∀ g ∈ groups, g ≠ [])
  (hsize : ∀ g ∈ groups, g.length ≤ 256)

omit hcount hne hsize in
theorem finished_walkAt {i j : Nat} (hc : groups.length ≤ 255) (hi : i ≤ groups.length) :
    (walkAt id config groups.length i j).finished = decide (groups.length ≤ i) := by
  simp only [InterfaceWalk.finished, walkAt, Bool.false_or, UInt8.le_iff_toNat_le]
  rw [toNat_toUInt8 (by omega), toNat_toUInt8 (by omega)]

include hcount hne in
/-- The first alternate of the next interface, if there is one. -/
theorem before_nextInterface {i j : Nat} (hi : i < groups.length) :
    Before id config groups (walkAt id config groups.length i j).nextInterface
      (interfacesFrom config (i + 1) (groups.drop (i + 1))) := by
  unfold InterfaceWalk.nextInterface
  have hbyte : (walkAt id config groups.length i j).interface < 254 ↔ i < 254 := by
    rw [UInt8.lt_iff_toNat_lt, show (walkAt id config groups.length i j).interface.toNat = i from
      toNat_toUInt8 (by omega)]
    exact Iff.rfl
  split
  next hlt =>
    rw [hbyte] at hlt
    have hnext : { walkAt id config groups.length i j with
        interface := (walkAt id config groups.length i j).interface + 1, alternate := 0 } =
          walkAt id config groups.length (i + 1) 0 := by
      simp [walkAt]
    rw [hnext]
    by_cases hlast : i + 1 < groups.length
    · have hg : groups[i + 1]? = some groups[i + 1] := List.getElem?_eq_getElem hlast
      rw [List.drop_eq_getElem_cons hlast, interfacesFrom]
      have hpos : 0 < groups[i + 1].length :=
        List.length_pos_iff.2 (hne _ (List.getElem_mem hlast))
      exact Before.here hg hpos
    · rw [List.drop_of_length_le (by omega)]
      exact .ended (by rw [finished_walkAt hcount (by omega)]; simpa using hlast)
  next hge =>
    rw [hbyte] at hge
    rw [List.drop_of_length_le (by omega)]
    exact .ended rfl

include hcount hne hsize in
/-- What comes after the alternate at a place. -/
theorem ahead_nextAlternate {i j : Nat} {g : List Alternate} (hi : groups[i]? = some g)
    (hj : j < g.length) : Ahead id config groups (walkAt id config groups.length i j).nextAlternate
      (alternatesFrom config i (j + 1) (g.drop (j + 1)) ++
        interfacesFrom config (i + 1) (groups.drop (i + 1))) := by
  obtain ⟨hlt, hg⟩ := List.getElem?_eq_some_iff.1 hi
  have hlen : g.length ≤ 256 := hsize g (hg ▸ List.getElem_mem hlt)
  have hbyte : (walkAt id config groups.length i j).alternate < 255 ↔ j < 255 := by
    rw [UInt8.lt_iff_toNat_lt, show (walkAt id config groups.length i j).alternate.toNat = j from
      toNat_toUInt8 (by omega)]
    exact Iff.rfl
  unfold InterfaceWalk.nextAlternate
  split
  next hj255 =>
    rw [hbyte] at hj255
    have hnext : { walkAt id config groups.length i j with
        alternate := (walkAt id config groups.length i j).alternate + 1 } =
          walkAt id config groups.length i (j + 1) := by
      simp [walkAt]
    rw [hnext]
    by_cases hlast : j + 1 < g.length
    · exact .before (.here hi hlast)
    · rw [List.drop_of_length_le (by omega)]
      exact .behind hi (by omega) (by omega) (by omega)
  next hj255 =>
    rw [hbyte] at hj255
    rw [List.drop_of_length_le (by omega)]
    exact .before (before_nextInterface hcount hne hlt)

end

/-! The steps of the walk on the bus. -/

section

variable {id : DeviceId} {c : Bus} {d : DeviceState} {config : UInt8} {k : Configuration}
  (hf : c.failures = ∅) (hd : c.device? id = some d)
  (hk : d.spec.configurations[config.toNat]? = some k)

omit hf hd in
include hk in
theorem alternateOf_eq (interface alternate : UInt8) :
    Bus.alternateOf d.spec interface alternate config =
      match k.interfaces[interface.toNat]? with
      | none => .error (.invalidDescriptorIndex .interface interface)
      | some g =>
        match g[alternate.toNat]? with
        | some a => .ok a
        | none => .error (.invalidDescriptorIndex .alternateSetting alternate) := by
  rw [Bus.alternateOf, Bus.configurationOf, hk]
  rfl

include hf hd hk

theorem gives_query {i j : Nat} {g : List Alternate} (hi : k.interfaces[i]? = some g)
    (hi8 : i < 256) (hj8 : j < 256) : Gives (AtCore c)
      (walkAt id config k.interfaces.length i j).query
      (.ok (match g[j]? with
        | some a => .ok a.descriptor
        | none => .error (.invalidDescriptorIndex .alternateSetting j.toUInt8))) (AtCore c) := by
  have hread := (gives_interfaceDescriptor hf hd i.toUInt8 j.toUInt8 config).attempted
  rw [alternateOf_eq hk, toNat_toUInt8 hi8, toNat_toUInt8 hj8, hi] at hread
  dsimp only at hread
  cases hj : g[j]? with
  | some a =>
    rw [hj] at hread
    exact hread
  | none =>
    rw [hj] at hread
    exact hread

variable (hcount : k.interfaces.length ≤ 255) (hne : ∀ g ∈ k.interfaces, g ≠ [])
  (hsize : ∀ g ∈ k.interfaces, g.length ≤ 256)

include hcount hne hsize

/-- At an alternate both steps give it and go on behind it. -/
theorem gives_before {w : InterfaceWalk} {l : List InterfaceLocation}
    (h : Before id config k.interfaces w l) :
    ∃ v, Ahead id config k.interfaces v l.tail ∧
      Gives (AtCore c) w.next (.ok (l.head?.map fun x => (.ok x, v))) (AtCore c) ∧
      Gives (AtCore c) w.nextHere (.ok (l.head?.map fun x => (.ok x, v))) (AtCore c) := by
  cases h with
  | ended hended =>
    refine ⟨w, .before (.ended hended), ?_⟩
    unfold InterfaceWalk.next InterfaceWalk.nextHere
    rw [hended]
    exact ⟨gives_pure _, gives_pure _⟩
  | @here i j g hi hj =>
    obtain ⟨hlt, hg⟩ := List.getElem?_eq_some_iff.1 hi
    have hlen : g.length ≤ 256 := hsize g (hg ▸ List.getElem_mem hlt)
    have hopen : (walkAt id config k.interfaces.length i j).finished = false := by
      rw [finished_walkAt hcount (by omega)]
      simpa using hlt
    have hquery := gives_query hf hd hk hi (j := j) (by omega) (by omega)
    rw [List.getElem?_eq_getElem hj] at hquery
    rw [List.drop_eq_getElem_cons hj]
    refine ⟨_, ahead_nextAlternate hcount hne hsize hi hj, ?_⟩
    unfold InterfaceWalk.next InterfaceWalk.nextHere
    rw [hopen]
    exact ⟨hquery.bind (gives_pure _), hquery.bind (gives_pure _)⟩

/-- A step gives the first of what is ahead, and the rest is then ahead. -/
theorem gives_next {w : InterfaceWalk} {l : List InterfaceLocation}
    (h : Ahead id config k.interfaces w l) :
    ∃ v, Ahead id config k.interfaces v l.tail ∧
      Gives (AtCore c) w.next (.ok (l.head?.map fun x => (.ok x, v))) (AtCore c) := by
  cases h with
  | before h =>
    obtain ⟨v, hv, hnext, -⟩ := gives_before hf hd hk hcount hne hsize h
    exact ⟨v, hv, hnext⟩
  | @behind i j g hi hj hpos hfits =>
    -- The missing index sends the walk to the next interface.
    obtain ⟨hlt, -⟩ := List.getElem?_eq_some_iff.1 hi
    obtain ⟨v, hv, -, hhere⟩ := gives_before hf hd hk hcount hne hsize
      (before_nextInterface hcount hne hlt (j := j))
    have hopen : (walkAt id config k.interfaces.length i j).finished = false := by
      rw [finished_walkAt hcount (by omega)]
      simpa using hlt
    have hquery := gives_query hf hd hk hi (j := j) (by omega) (by omega)
    rw [List.getElem?_eq_none (by omega)] at hquery
    have halternate : 0 < (walkAt id config k.interfaces.length i j).alternate := by
      rw [UInt8.lt_iff_toNat_lt]
      change 0 < j.toUInt8.toNat
      rw [toNat_toUInt8 (by omega)]
      exact hpos
    refine ⟨v, hv, ?_⟩
    unfold InterfaceWalk.next
    rw [hopen]
    apply hquery.bind
    dsimp only
    rw [if_pos halternate]
    exact hhere

/-- A search through the walk is a search through what is ahead. -/
theorem gives_findUpTo (test : InterfaceLocation → Bool) {w : InterfaceWalk}
    {l : List InterfaceLocation} (h : Ahead id config k.interfaces w l) {fuel : Nat}
    (hfuel : l.length ≤ fuel) : Gives (AtCore c) (InterfaceWalk.cursor.findUpTo test fuel w)
      (.ok (l.find? test)) (AtCore c) := by
  induction fuel generalizing w l with
  | zero =>
    rw [List.eq_nil_of_length_eq_zero (Nat.le_zero.1 hfuel)]
    exact gives_pure _
  | succ fuel ih =>
    obtain ⟨v, hv, hnext⟩ := gives_next hf hd hk hcount hne hsize h
    unfold Cursor.findUpTo
    apply Gives.bind hnext
    cases l with
    | nil => exact gives_pure _
    | cons x rest =>
      have hrest := ih hv (Nat.le_of_succ_le_succ hfuel)
      rw [List.find?_cons]
      dsimp only [List.head?_cons, Option.map_some]
      cases test x with
      | true => exact gives_pure _
      | false => exact hrest

theorem gives_filterUpTo (test : InterfaceLocation → Bool) {w : InterfaceWalk}
    {l : List InterfaceLocation} (h : Ahead id config k.interfaces w l) {fuel : Nat}
    (hfuel : l.length ≤ fuel) : Gives (AtCore c) (InterfaceWalk.cursor.filterUpTo test fuel w)
      (.ok (l.filter test)) (AtCore c) := by
  induction fuel generalizing w l with
  | zero =>
    rw [List.eq_nil_of_length_eq_zero (Nat.le_zero.1 hfuel)]
    exact gives_pure _
  | succ fuel ih =>
    obtain ⟨v, hv, hnext⟩ := gives_next hf hd hk hcount hne hsize h
    unfold Cursor.filterUpTo
    apply Gives.bind hnext
    cases l with
    | nil => exact gives_pure _
    | cons x rest =>
      have hrest := ih hv (Nat.le_of_succ_le_succ hfuel)
      rw [List.filter_cons]
      exact hrest.bind (gives_pure _)

end

end SerialBus.Loopback
