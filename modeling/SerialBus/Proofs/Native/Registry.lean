import SerialBus.Native.Client
import SerialBus.Proofs.Table

/-! The registry of a user of libusb: each place keeps the number that it was first given, no two
places share one, and the devices that are known are those that were enumerated last. -/
namespace SerialBus.Native.Context

variable {D H : Type}

/-- The number that a place was given, if it was given one. -/
def number? (c : Context D H) (p : UInt8 × UInt8 × UInt8) : Option DeviceId := c.positions.lookup p

/-- No two places have the same number, and no number is larger than the last one. -/
structure Numbered (c : Context D H) : Prop where
  injective : ∀ {p q id}, c.number? p = some id → c.number? q = some id → p = q
  le_lastId : ∀ {p id}, c.number? p = some id → id.number ≤ c.lastId

theorem numbered_empty : Numbered ({} : Context D H) := ⟨nofun, nofun⟩

variable [Located D]

section

variable {c : Context D H} {d : D} {p : UInt8 × UInt8 × UInt8} {id : DeviceId}

theorem register_of_some (h : c.number? (place d) = some id) :
    c.register d = ({ c with known := c.known.insert id d }, id) := by
  unfold number? at h
  simp only [register, h]

theorem register_of_none (h : c.number? (place d) = none) :
    c.register d = ({ c with
      positions := (place d, ⟨c.lastId + 1⟩) :: c.positions
      known := c.known.insert ⟨c.lastId + 1⟩ d
      lastId := c.lastId + 1 }, ⟨c.lastId + 1⟩) := by
  unfold number? at h
  simp only [register, h]

theorem number?_register_self : (c.register d).1.number? (place d) = some (c.register d).2 := by
  cases h : c.number? (place d) with
  | some id => rw [register_of_some h]; exact h
  | none => rw [register_of_none h]; simp [number?]

theorem number?_register (h : c.number? p = some id) : (c.register d).1.number? p = some id := by
  cases hd : c.number? (place d) with
  | some i => rw [register_of_some hd]; exact h
  | none =>
    have hne : p ≠ place d := fun heq => by simp [← heq, h] at hd
    rw [register_of_none hd]
    unfold number? at h ⊢
    rw [List.lookup_cons, beq_false_of_ne hne]
    exact h

theorem known_register : (c.register d).1.known = c.known.insert (c.register d).2 d := by
  cases h : c.number? (place d) with
  | some id => rw [register_of_some h]
  | none => rw [register_of_none h]

theorem handles_register : (c.register d).1.handles = c.handles := by
  cases h : c.number? (place d) with
  | some id => rw [register_of_some h]
  | none => rw [register_of_none h]

theorem nextHandle_register : (c.register d).1.nextHandle = c.nextHandle := by
  cases h : c.number? (place d) with
  | some id => rw [register_of_some h]
  | none => rw [register_of_none h]

/-- A new number is larger than all that were given before. -/
theorem Numbered.register (hc : c.Numbered) (d : D) : (c.register d).1.Numbered := by
  cases hd : c.number? (place d) with
  | some i =>
    rw [register_of_some hd]
    exact ⟨hc.injective, hc.le_lastId⟩
  | none =>
    rw [register_of_none hd]
    have hcases : ∀ {p : UInt8 × UInt8 × UInt8} {id : DeviceId},
        List.lookup p ((place d, (⟨c.lastId + 1⟩ : DeviceId)) :: c.positions) = some id →
          p = place d ∧ id = ⟨c.lastId + 1⟩ ∨ c.number? p = some id ∧ id.number ≤ c.lastId := by
      intro p id h
      rw [List.lookup_cons] at h
      by_cases hp : p = place d
      · simp only [hp, beq_self_eq_true, Option.some.injEq] at h
        exact .inl ⟨hp, h.symm⟩
      · rw [beq_false_of_ne hp] at h
        exact .inr ⟨h, hc.le_lastId h⟩
    constructor
    · intro p q id hp hq
      rcases hcases hp with ⟨rfl, rfl⟩ | ⟨hp, hle⟩
      · rcases hcases hq with ⟨rfl, -⟩ | ⟨-, hle⟩
        · rfl
        · simp only at hle
          omega
      · rcases hcases hq with ⟨-, rfl⟩ | ⟨hq, -⟩
        · simp only at hle
          omega
        · exact hc.injective hp hq
    · intro p id h
      rcases hcases h with ⟨-, rfl⟩ | ⟨-, hle⟩
      · exact Nat.le_refl _
      · exact Nat.le_succ_of_le hle

end

section

variable {c : Context D H} {ds : List D} {p : UInt8 × UInt8 × UInt8} {id : DeviceId}

theorem registerAll_cons (d : D) (rest : List D) :
    c.registerAll (d :: rest) = (((c.register d).1.registerAll rest).1,
      (c.register d).2 :: ((c.register d).1.registerAll rest).2) := rfl

theorem length_registerAll : (c.registerAll ds).2.length = ds.length := by
  induction ds generalizing c with
  | nil => rfl
  | cons d rest ih => simp [registerAll_cons, ih]

theorem handles_registerAll : (c.registerAll ds).1.handles = c.handles := by
  induction ds generalizing c with
  | nil => rfl
  | cons d rest ih => rw [registerAll_cons, ih, handles_register]

theorem nextHandle_registerAll : (c.registerAll ds).1.nextHandle = c.nextHandle := by
  induction ds generalizing c with
  | nil => rfl
  | cons d rest ih => rw [registerAll_cons, ih, nextHandle_register]

theorem number?_registerAll (h : c.number? p = some id) :
    (c.registerAll ds).1.number? p = some id := by
  induction ds generalizing c with
  | nil => exact h
  | cons d rest ih => exact ih (number?_register h)

theorem Numbered.registerAll (h : c.Numbered) (ds : List D) :
    (c.registerAll ds).1.Numbered := by
  induction ds generalizing c with
  | nil => exact h
  | cons d rest ih => exact ih (h.register d)

/-- The number that a device is listed under is that of its place. -/
theorem number?_of_mem_registerAll {e : D × DeviceId}
    (h : e ∈ ds.zip (c.registerAll ds).2) :
    (c.registerAll ds).1.number? (place e.1) = some e.2 := by
  induction ds generalizing c with
  | nil => cases h
  | cons d rest ih =>
    rw [registerAll_cons] at h ⊢
    rcases List.mem_cons.1 h with rfl | h
    · exact number?_registerAll number?_register_self
    · exact ih h

/-- Devices at places of their own are listed under numbers of their own. -/
theorem nodup_registerAll (hc : c.Numbered) (h : (ds.map place).Nodup) :
    (c.registerAll ds).2.Nodup := by
  induction ds generalizing c with
  | nil => exact .nil
  | cons d rest ih =>
    rw [List.map_cons, List.nodup_cons] at h
    rw [registerAll_cons, List.nodup_cons]
    refine ⟨fun hmem => h.1 ?_, ih (hc.register d) h.2⟩
    obtain ⟨e, he, heq⟩ : ∃ e ∈ rest.zip ((c.register d).1.registerAll rest).2,
        e.2 = (c.register d).2 := by
      have hlength : ((c.register d).1.registerAll rest).2.length ≤ rest.length :=
        Nat.le_of_eq length_registerAll
      rw [← List.map_snd_zip hlength] at hmem
      exact List.mem_map.1 hmem
    have hd : ((c.register d).1.registerAll rest).1.number? (place d) = some (c.register d).2 :=
      number?_registerAll number?_register_self
    have hother := number?_of_mem_registerAll he
    rw [heq] at hother
    rw [((hc.register d).registerAll rest).injective hd hother]
    exact List.mem_map.2 ⟨e.1, (List.of_mem_zip he).1, rfl⟩

/-- What is known then: the devices that were listed, and under other numbers what was known. -/
theorem get?_known_registerAll (hids : (c.registerAll ds).2.Nodup) (d : D) :
    (c.registerAll ds).1.known.get? id = some d ↔
      (d, id) ∈ ds.zip (c.registerAll ds).2 ∨
        id ∉ (c.registerAll ds).2 ∧ c.known.get? id = some d := by
  induction ds generalizing c with
  | nil => simp [registerAll]
  | cons e rest ih =>
    rw [registerAll_cons, List.nodup_cons] at hids
    rw [registerAll_cons, ih hids.2, known_register]
    simp only [List.zip_cons_cons, List.mem_cons, Prod.mk.injEq, not_or]
    by_cases hid : id = (c.register e).2
    · subst hid
      have hnot : (d, (c.register e).2) ∉ rest.zip ((c.register e).1.registerAll rest).2 :=
        fun h => hids.1 (List.of_mem_zip h).2
      rw [Table.get?_insert_self]
      simp [hnot, hids.1, eq_comm]
    · rw [Table.get?_insert_of_ne (Ne.symm hid)]
      simp [hid]

end

end SerialBus.Native.Context
