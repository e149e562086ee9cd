import SerialBus.InterfaceWalk

/-! The counters of a walk. They go through the pairs of indices in lexicographic order, and as long
as the walk is not over they count in numbers what they count in bytes. -/
namespace SerialBus.InterfaceWalk

/-- The pair of indices at which the walk stands. -/
def place (w : InterfaceWalk) : UInt8 × UInt8 := (w.interface, w.alternate)

/-- The number of a pair of indices, where all pairs are counted in lexicographic order. -/
def rank (p : UInt8 × UInt8) : Nat := p.1.toNat * 256 + p.2.toNat

theorem rank_place (w : InterfaceWalk) :
    rank w.place = w.interface.toNat * 256 + w.alternate.toNat := rfl

theorem lex_iff_rank_lt {p q : UInt8 × UInt8} :
    Prod.Lex (· < ·) (· < ·) p q ↔ rank p < rank q := by
  have hp := UInt8.toNat_lt p.2
  have hq := UInt8.toNat_lt q.2
  rw [Prod.lex_def, UInt8.lt_iff_toNat_lt, UInt8.lt_iff_toNat_lt, ← UInt8.toNat_inj]
  unfold rank
  omega

/-- Both walks go through the same configuration. -/
structure Along (w v : InterfaceWalk) : Prop where
  device : v.device = w.device
  config : v.config = w.config
  numInterfaces : v.numInterfaces = w.numInterfaces

theorem Along.trans {w v u : InterfaceWalk} (h : Along w v) (g : Along v u) : Along w u :=
  ⟨g.device.trans h.device, g.config.trans h.config, g.numInterfaces.trans h.numInterfaces⟩

theorem along_refl (w : InterfaceWalk) : Along w w := ⟨rfl, rfl, rfl⟩

theorem along_nextInterface (w : InterfaceWalk) : Along w w.nextInterface := by
  unfold nextInterface
  split
  · exact ⟨rfl, rfl, rfl⟩
  · exact ⟨rfl, rfl, rfl⟩

theorem along_nextAlternate (w : InterfaceWalk) : Along w w.nextAlternate := by
  unfold nextAlternate
  split
  · exact ⟨rfl, rfl, rfl⟩
  · exact along_nextInterface w

theorem along_stop (w : InterfaceWalk) : Along w w.stop := ⟨rfl, rfl, rfl⟩

@[simp] theorem finished_stop (w : InterfaceWalk) : w.stop.finished = true := rfl

@[simp] theorem alternate_nextInterface (w : InterfaceWalk) : w.nextInterface.alternate = 0 := by
  unfold nextInterface
  split <;> rfl

/-- Adding one to a byte that is not the greatest one. -/
theorem toNat_succ {b : UInt8} (h : b.toNat < 255) : (b + 1).toNat = b.toNat + 1 := by
  have hsum : (b + 1).toNat = (b.toNat + 1) % 256 := UInt8.toNat_add b 1
  omega

theorem toNat_lt_of_ne {b : UInt8} (h : b ≠ 255) : b.toNat < 255 := by
  have hbyte := UInt8.toNat_lt b
  have hne : b.toNat ≠ 255 := fun heq => h (UInt8.toNat_inj.1 heq)
  omega

theorem nextAlternate_of_ne {w : InterfaceWalk} (h : w.alternate ≠ 255) :
    w.nextAlternate = { w with alternate := w.alternate + 1 } := by
  have hlt : w.alternate < 255 := UInt8.lt_iff_toNat_lt.2 (toNat_lt_of_ne h)
  unfold nextAlternate
  rw [if_pos hlt]

theorem nextAlternate_of_eq {w : InterfaceWalk} (h : w.alternate = 255) :
    w.nextAlternate = w.nextInterface := by
  unfold nextAlternate
  rw [h, if_neg (by decide)]

/-- Behind an alternate comes the next one of its interface; only alternate 255 has none. -/
theorem nextAlternate_cases (w : InterfaceWalk) :
    w.nextAlternate.interface = w.interface ∧
        w.nextAlternate.alternate.toNat = w.alternate.toNat + 1 ∨
      w.alternate = 255 ∧ w.nextAlternate = w.nextInterface := by
  by_cases hlast : w.alternate = 255
  · exact .inr ⟨hlast, nextAlternate_of_eq hlast⟩
  · rw [nextAlternate_of_ne hlast]
    exact .inl ⟨rfl, toNat_succ (toNat_lt_of_ne hlast)⟩

section

variable {w : InterfaceWalk} (hopen : w.finished = false)

include hopen

theorem interface_lt : w.interface.toNat < w.numInterfaces.toNat := by
  have hparts : w.done = false ∧ ¬ w.numInterfaces ≤ w.interface := by
    simpa [finished] using hopen
  have hle := hparts.2
  rw [UInt8.le_iff_toNat_le] at hle
  omega

theorem interface_nextInterface : w.nextInterface.interface.toNat = w.interface.toNat + 1 := by
  have hlt := interface_lt hopen
  have hbyte := UInt8.toNat_lt w.numInterfaces
  unfold nextInterface
  split
  next hsmall =>
    rw [UInt8.lt_iff_toNat_lt] at hsmall
    have hsmall : w.interface.toNat < 254 := hsmall
    exact toNat_succ (by omega)
  next hlarge =>
    rw [UInt8.lt_iff_toNat_lt] at hlarge
    have hlarge : ¬ w.interface.toNat < 254 := hlarge
    change 255 = _
    omega

theorem rank_nextInterface : rank w.nextInterface.place = (w.interface.toNat + 1) * 256 := by
  have hinterface := interface_nextInterface hopen
  rw [rank_place, hinterface, alternate_nextInterface, UInt8.toNat_zero, Nat.add_zero]

theorem rank_lt_nextInterface : rank w.place < rank w.nextInterface.place := by
  have hbyte := UInt8.toNat_lt w.alternate
  rw [rank_nextInterface hopen, rank_place]
  omega

/-- No pair is left out between an alternate and what comes behind it. -/
theorem rank_nextAlternate : rank w.nextAlternate.place = rank w.place + 1 := by
  rcases nextAlternate_cases w with ⟨hinterface, halternate⟩ | ⟨hlast, hnext⟩
  · rw [rank_place, rank_place, hinterface, halternate]
    omega
  · have hbyte : w.alternate.toNat = 255 := by rw [hlast]; rfl
    rw [hnext, rank_nextInterface hopen, rank_place, hbyte]
    omega

theorem remaining_eq : w.remaining = w.numInterfaces.toNat * 256 - rank w.place := by
  have hlt := interface_lt hopen
  unfold remaining
  rw [hopen, if_neg Bool.false_ne_true, rank_place]
  omega

/-- A walk of the same configuration has fewer queries to come where it is over or stands farther
on. -/
theorem remaining_lt {v : InterfaceWalk} (hsame : Along w v)
    (hrank : v.finished = false → rank w.place < rank v.place) : v.remaining < w.remaining := by
  have hlt := interface_lt hopen
  have hbyte := UInt8.toNat_lt w.alternate
  have hw := remaining_eq hopen
  have hplace := rank_place w
  cases hv : v.finished with
  | true =>
    have hzero : v.remaining = 0 := by
      unfold remaining
      rw [hv, if_pos rfl]
    omega
  | false =>
    have hremaining := remaining_eq hv
    have hfarther := hrank hv
    rw [hsame.numInterfaces] at hremaining
    omega

end

/-- The counters go up by one in the numbers that they stand for: none of them wraps around, and
none stays where it is. -/
structure Counts (w : InterfaceWalk) : Prop where
  interface : w.nextInterface.interface.toNat = w.interface.toNat + 1
  restart : w.nextInterface.alternate = 0
  alternate : w.nextAlternate.interface = w.interface ∧
      w.nextAlternate.alternate.toNat = w.alternate.toNat + 1 ∨
    w.alternate = 255 ∧ w.nextAlternate = w.nextInterface

theorem counts {w : InterfaceWalk} (hopen : w.finished = false) : w.Counts :=
  ⟨interface_nextInterface hopen, alternate_nextInterface w, nextAlternate_cases w⟩

/-- A walk that is over stays over behind the interface where it stands. -/
theorem finished_nextInterface {w : InterfaceWalk} (h : w.finished = true) :
    w.nextInterface.finished = true := by
  have hparts : w.done = true ∨ w.numInterfaces.toNat ≤ w.interface.toNat := by
    simpa [finished, UInt8.le_iff_toNat_le] using h
  unfold nextInterface
  split
  next hsmall =>
    rw [UInt8.lt_iff_toNat_lt] at hsmall
    have hsmall : w.interface.toNat < 254 := hsmall
    have hnext : (w.interface + 1).toNat = w.interface.toNat + 1 := toNat_succ (by omega)
    rcases hparts with hdone | hle
    · simp [finished, hdone]
    · have hle : w.numInterfaces ≤ w.interface + 1 := by
        rw [UInt8.le_iff_toNat_le]
        omega
      simp [finished, hle]
  next => rfl

end SerialBus.InterfaceWalk
