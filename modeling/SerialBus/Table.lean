/-! Finite maps whose entries stand in ascending order of their keys. -/

namespace SerialBus

/-- Keys that are told apart and ordered by a natural number. -/
class Ranked (κ : Type) where
  rank : κ → Nat
  eq_of_rank_eq : ∀ {a b : κ}, rank a = rank b → a = b

export Ranked (rank)

instance : Ranked Nat := ⟨id, id⟩

instance : Ranked UInt8 := ⟨UInt8.toNat, UInt8.toNat_inj.1⟩

structure Table (κ α : Type) [Ranked κ] where
  entries : List (κ × α)
  ascending : entries.Pairwise fun a b => rank a.1 < rank b.1

namespace Table

variable {κ α : Type} [Ranked κ]

@[ext] theorem ext {s t : Table κ α} (h : s.entries = t.entries) : s = t := by
  cases s; cases t; simp_all

instance [DecidableEq κ] [DecidableEq α] : DecidableEq (Table κ α) := fun s t =>
  decidable_of_iff (s.entries = t.entries) ⟨ext, fun h => h ▸ rfl⟩

def empty : Table κ α := ⟨[], .nil⟩

instance : EmptyCollection (Table κ α) := ⟨empty⟩

instance : Inhabited (Table κ α) := ⟨empty⟩

/-- The value that the first entry for `k` holds. -/
def lookup (k : κ) : List (κ × α) → Option α
  | [] => none
  | (j, v) :: rest => if rank j = rank k then some v else lookup k rest

def get? (t : Table κ α) (k : κ) : Option α := lookup k t.entries

def contains (t : Table κ α) (k : κ) : Bool := (t.get? k).isSome

def keys (t : Table κ α) : List κ := t.entries.map (·.1)

def size (t : Table κ α) : Nat := t.entries.length

def isEmpty (t : Table κ α) : Bool := t.entries.isEmpty

/-- The entries with `v` put in for `k`, before the first larger key. -/
def put (k : κ) (v : α) : List (κ × α) → List (κ × α)
  | [] => [(k, v)]
  | (j, w) :: rest =>
    if rank j < rank k then (j, w) :: put k v rest
    else if rank j = rank k then (k, v) :: rest
    else (k, v) :: (j, w) :: rest

theorem rank_of_mem_put {k : κ} {v : α} {l : List (κ × α)} {p : κ × α} (h : p ∈ put k v l) :
    rank p.1 = rank k ∨ p ∈ l := by
  induction l with
  | nil => simp_all [put]
  | cons e rest ih =>
    obtain ⟨j, w⟩ := e
    simp only [put] at h
    split at h
    · rcases List.mem_cons.1 h with h | h
      · simp [h]
      · rcases ih h with h | h <;> simp [h]
    · split at h <;> rcases List.mem_cons.1 h with h | h <;> simp_all

theorem ascending_put {k : κ} {v : α} {l : List (κ × α)}
    (h : l.Pairwise fun a b => rank a.1 < rank b.1) :
    (put k v l).Pairwise fun a b => rank a.1 < rank b.1 := by
  induction l with
  | nil => simp [put]
  | cons e rest ih =>
    obtain ⟨j, w⟩ := e
    obtain ⟨hj, hrest⟩ := List.pairwise_cons.1 h
    simp only [put]
    split
    · refine List.pairwise_cons.2 ⟨fun p hp => ?_, ih hrest⟩
      rcases rank_of_mem_put hp with hp | hp
      · simp only [hp]; assumption
      · exact hj p hp
    · split
      next heq => exact List.pairwise_cons.2 ⟨fun p hp => heq ▸ hj p hp, hrest⟩
      next hlt hne =>
        refine List.pairwise_cons.2 ⟨fun p hp => ?_, h⟩
        rcases List.mem_cons.1 hp with rfl | hp
        · simp only; omega
        · have := hj p hp; simp only at this ⊢; omega

def insert (t : Table κ α) (k : κ) (v : α) : Table κ α :=
  ⟨put k v t.entries, ascending_put t.ascending⟩

def erase (t : Table κ α) (k : κ) : Table κ α :=
  ⟨t.entries.filter fun e => rank e.1 ≠ rank k, t.ascending.filter _⟩

/-- The table with `f` applied to the value of `k`. -/
def modify (t : Table κ α) (k : κ) (f : α → α) : Table κ α :=
  match t.get? k with
  | some v => t.insert k (f v)
  | none => t

def ofList (l : List (κ × α)) : Table κ α := l.foldl (fun t e => t.insert e.1 e.2) empty

@[simp] theorem get?_empty (k : κ) : (empty : Table κ α).get? k = none := rfl

theorem lookup_put (k j : κ) (v : α) (l : List (κ × α)) :
    lookup j (put k v l) = if rank k = rank j then some v else lookup j l := by
  induction l with
  | nil => simp [put, lookup]
  | cons e rest ih =>
    obtain ⟨i, w⟩ := e
    simp only [put]
    grind [lookup]

@[simp] theorem get?_insert (t : Table κ α) (k j : κ) (v : α) :
    (t.insert k v).get? j = if rank k = rank j then some v else t.get? j :=
  lookup_put k j v t.entries

theorem lookup_filter (k j : κ) (l : List (κ × α)) :
    lookup j (l.filter fun e => rank e.1 ≠ rank k) =
      if rank k = rank j then none else lookup j l := by
  induction l with
  | nil => simp [lookup]
  | cons e rest ih =>
    obtain ⟨i, w⟩ := e
    grind [lookup]

@[simp] theorem get?_erase (t : Table κ α) (k j : κ) :
    (t.erase k).get? j = if rank k = rank j then none else t.get? j :=
  lookup_filter k j t.entries

theorem contains_eq_isSome (t : Table κ α) (k : κ) : t.contains k = (t.get? k).isSome := rfl

end Table

/-- A set of bytes, such as interface numbers or endpoint addresses. -/
abbrev ByteSet := Table UInt8 Unit

def ByteSet.add (s : ByteSet) (b : UInt8) : ByteSet := s.insert b ()

def ByteSet.ofList (l : List UInt8) : ByteSet := Table.ofList (l.map (·, ()))

end SerialBus
