import SerialBus.Table

/-! What tables hold after their changes, with keys told apart by equality. -/
namespace SerialBus

theorem rank_inj {κ : Type} [Ranked κ] {a b : κ} : rank a = rank b ↔ a = b :=
  ⟨Ranked.eq_of_rank_eq, fun h => h ▸ rfl⟩

namespace Table

variable {κ α : Type} [Ranked κ] {t : Table κ α} {k j : κ} {v : α}

theorem get?_insert_self : (t.insert k v).get? k = some v := by
  rw [get?_insert, if_pos rfl]

theorem get?_insert_of_ne (h : k ≠ j) : (t.insert k v).get? j = t.get? j := by
  rw [get?_insert, if_neg (mt rank_inj.1 h)]

theorem get?_erase_self : (t.erase k).get? k = none := by
  rw [get?_erase, if_pos rfl]

theorem get?_erase_of_ne (h : k ≠ j) : (t.erase k).get? j = t.get? j := by
  rw [get?_erase, if_neg (mt rank_inj.1 h)]

theorem get?_modify_self {f : α → α} : (t.modify k f).get? k = (t.get? k).map f := by
  unfold modify
  cases h : t.get? k with
  | none => simp [h]
  | some v => simp

theorem get?_modify_of_ne {f : α → α} (h : k ≠ j) : (t.modify k f).get? j = t.get? j := by
  unfold modify
  cases t.get? k with
  | none => rfl
  | some v => exact get?_insert_of_ne h

theorem contains_insert_self : (t.insert k v).contains k = true := by
  rw [contains_eq_isSome, get?_insert_self]
  rfl

theorem contains_insert {i : κ} (h : (t.insert k v).contains i = true) :
    i = k ∨ t.contains i = true := by
  by_cases hk : k = i
  · exact .inl hk.symm
  · rw [contains_eq_isSome, get?_insert_of_ne hk] at h
    exact .inr h

theorem contains_insert_of_ne {i : κ} (h : k ≠ i) : (t.insert k v).contains i = t.contains i := by
  rw [contains_eq_isSome, get?_insert_of_ne h, contains_eq_isSome]

theorem contains_insert_of_contains {i : κ} (h : t.contains i = true) :
    (t.insert k v).contains i = true := by
  by_cases hk : k = i
  · subst hk
    exact contains_insert_self
  · rw [contains_eq_isSome, get?_insert_of_ne hk]
    exact h

theorem contains_erase_of_ne {i : κ} (h : k ≠ i) : (t.erase k).contains i = t.contains i := by
  rw [contains_eq_isSome, get?_erase_of_ne h, contains_eq_isSome]

theorem contains_erase_self : (t.erase k).contains k = false := by
  rw [contains_eq_isSome, get?_erase_self]
  rfl

theorem mem_keys : k ∈ t.keys ↔ t.contains k = true := by
  rw [contains_eq_isSome, get?, keys]
  induction t.entries with
  | nil => simp [lookup]
  | cons e rest ih =>
    obtain ⟨i, w⟩ := e
    rw [List.map_cons, List.mem_cons, ih, lookup]
    by_cases hi : i = k
    · simp [hi]
    · rw [if_neg (mt rank_inj.1 hi)]
      exact or_iff_right (Ne.symm hi)

theorem nodup_keys (t : Table κ α) : t.keys.Nodup := by
  rw [keys, List.Nodup, List.pairwise_map]
  exact t.ascending.imp fun hlt heq => Nat.ne_of_lt hlt (congrArg rank heq)

/-- Tables with the same keys list them in the same order. -/
theorem keys_eq {β : Type} {s : Table κ β} (h : ∀ k, t.contains k = true ↔ s.contains k = true) :
    t.keys = s.keys := by
  have hasc : ∀ {γ : Type} (u : Table κ γ), u.keys.Pairwise fun a b => rank a < rank b :=
    fun u => List.pairwise_map.2 u.ascending
  have hperm : t.keys.Perm s.keys := by
    rw [List.perm_ext_iff_of_nodup (nodup_keys t) (nodup_keys s)]
    exact fun k => mem_keys.trans ((h k).trans mem_keys.symm)
  exact List.Perm.eq_of_pairwise (fun a b _ _ hab hba => absurd hab (Nat.lt_asymm hba)) (hasc t)
    (hasc s) hperm

theorem lookup_of_mem {l : List (κ × α)} (h : l.Pairwise fun a b => rank a.1 < rank b.1)
    {e : κ × α} (he : e ∈ l) : lookup e.1 l = some e.2 := by
  induction l with
  | nil => cases he
  | cons f rest ih =>
    obtain ⟨j, w⟩ := f
    obtain ⟨hlt, hrest⟩ := List.pairwise_cons.1 h
    rcases List.mem_cons.1 he with rfl | he
    · exact if_pos rfl
    · have hne : rank j ≠ rank e.1 := Nat.ne_of_lt (hlt e he)
      rw [lookup, if_neg hne]
      exact ih hrest he

theorem mem_of_lookup {l : List (κ × α)} {k : κ} {v : α} (h : lookup k l = some v) :
    (k, v) ∈ l := by
  induction l with
  | nil => cases h
  | cons e rest ih =>
    obtain ⟨j, w⟩ := e
    rw [lookup] at h
    split at h
    next heq =>
      cases h
      rw [rank_inj.1 heq]
      exact List.mem_cons_self
    next => exact List.mem_cons_of_mem _ (ih h)

/-- What is put in for the value that is there already changes nothing. -/
theorem put_of_lookup {l : List (κ × α)} (h : l.Pairwise fun a b => rank a.1 < rank b.1) {k : κ}
    {v : α} (hk : lookup k l = some v) : put k v l = l := by
  induction l with
  | nil => cases hk
  | cons e rest ih =>
    obtain ⟨j, w⟩ := e
    obtain ⟨hlt, hrest⟩ := List.pairwise_cons.1 h
    rw [lookup] at hk
    by_cases heq : rank j = rank k
    · rw [if_pos heq] at hk
      cases hk
      rw [put, if_neg (Nat.not_lt_of_le (Nat.le_of_eq heq.symm)), if_pos heq, rank_inj.1 heq]
    · rw [if_neg heq] at hk
      have hjk : rank j < rank k := hlt (k, v) (mem_of_lookup hk)
      rw [put, if_pos hjk, ih hrest hk]

theorem insert_of_get? {t : Table κ α} {k : κ} {v : α} (h : t.get? k = some v) :
    t.insert k v = t := Table.ext (put_of_lookup t.ascending h)

theorem get?_of_mem (t : Table κ α) {e : κ × α} (he : e ∈ t.entries) : t.get? e.1 = some e.2 :=
  lookup_of_mem t.ascending he

end Table

end SerialBus
