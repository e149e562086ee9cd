import SerialBus.Proofs.Walk.Steps

/-! The course of a walk: rounds one after the other, with the queries that they make and the items
that they give. Each round leads to a place farther on, so that no place is met twice, and the
alternates of an interface are come by without a gap. -/
namespace SerialBus

/-- The pair of indices that a query is for. -/
def Sent.place? {σ : Type} (q : Sent σ) : Option (UInt8 × UInt8) :=
  match q.call with
  | .interfaceDescriptor _ interface alternate _ => some (interface, alternate)
  | _ => none

namespace InterfaceWalk

/-- The alternates among the items. -/
def locations (items : List (Except UsbError InterfaceLocation)) : List InterfaceLocation :=
  items.filterMap Except.toOption

/-- The alternate indices that were found for an interface, in their order. -/
def alternatesOf (i : UInt8) (found : List InterfaceLocation) : List Nat :=
  (found.filter (·.index == i)).map (·.alternateIndex.toNat)

theorem alternatesOf_cons (i : UInt8) (l : InterfaceLocation) (found : List InterfaceLocation) :
    alternatesOf i (l :: found) =
      if l.index = i then l.alternateIndex.toNat :: alternatesOf i found
      else alternatesOf i found := by
  unfold alternatesOf
  rw [List.filter_cons]
  by_cases hi : l.index = i
  · rw [if_pos (by simpa using hi), if_pos hi, List.map_cons]
  · rw [if_neg (by simpa using hi), if_neg hi]

variable {σ : Type} [Backend σ]

/-- From a walk, by queries and items, to the walk that is left. -/
inductive Course : InterfaceWalk → List (Sent σ) → List (Except UsbError InterfaceLocation) →
    InterfaceWalk → Prop
  | start (w : InterfaceWalk) : Course w [] [] w
  | round {w v u : InterfaceWalk} {s : σ} {given : Option (Except UsbError InterfaceLocation)}
    {queries : List (Sent σ)} {items : List (Except UsbError InterfaceLocation)}
    (hopen : w.finished = false) (hround : Round w s given v) (hrest : Course v queries items u) :
    Course w (w.sent s :: queries) (given.toList ++ items) u

theorem Turned.course {w : InterfaceWalk} {t : Turn σ} (h : Turned w t) :
    Course w t.asked t.item.toList t.left := by
  induction h with
  | ended h => exact .start _
  | item hopen hround => exact .round hopen hround (.start _)
  | passed hopen hround _ ih => exact .round hopen hround ih

namespace Course

variable {w v : InterfaceWalk} {queries : List (Sent σ)}
  {items : List (Except UsbError InterfaceLocation)}

theorem trans {u : InterfaceWalk} {more : List (Sent σ)}
    {later : List (Except UsbError InterfaceLocation)} (h : Course w queries items v)
    (g : Course v more later u) : Course w (queries ++ more) (items ++ later) u := by
  induction h with
  | start w => exact g
  | round hopen hround _ ih =>
    rw [List.append_assoc]
    exact .round hopen hround (ih g)

/-- Nothing is asked and nothing is given where the walk is over. -/
theorem of_finished (h : Course w queries items v) (hover : w.finished = true) :
    queries = [] ∧ items = [] := by
  cases h with
  | start => exact ⟨rfl, rfl⟩
  | round hopen _ _ => exact absurd hover (by simp [hopen])

/-- Where something is asked the walk is open. -/
theorem open_of_mem (h : Course w queries items v) {q : Sent σ} (hq : q ∈ queries) :
    w.finished = false := by
  cases hover : w.finished with
  | false => rfl
  | true =>
    rw [(h.of_finished hover).1] at hq
    cases hq

/-- With each query there is at least one less to come. -/
theorem length_add_remaining_le (h : Course w queries items v) :
    queries.length + v.remaining ≤ w.remaining := by
  induction h with
  | start => simp
  | round hopen hround _ ih =>
    have hfewer := hround.remaining_lt hopen
    rw [List.length_cons]
    omega

theorem length_items_le (h : Course w queries items v) : items.length ≤ queries.length := by
  induction h with
  | start => exact Nat.le_refl 0
  | @round w v u s given queries items hopen hround _ ih =>
    have hgiven : given.toList.length ≤ 1 := by cases given <;> simp
    rw [List.length_append, List.length_cons]
    omega

/-! What is asked. -/

/-- Each query is made by an open walk of the same configuration. -/
theorem asking (h : Course w queries items v) {q : Sent σ} (hq : q ∈ queries) :
    ∃ u, Along w u ∧ u.finished = false ∧ q = u.sent q.met := by
  induction h with
  | start => cases hq
  | @round w v u s given queries items hopen hround _ ih =>
    rcases List.mem_cons.1 hq with rfl | hq
    · exact ⟨w, along_refl w, hopen, rfl⟩
    · obtain ⟨x, hx, hrest⟩ := ih hq
      exact ⟨x, hround.along.trans hx, hrest⟩

/-- Nothing is asked for that lies before the place where the walk stands. -/
theorem rank_le (h : Course w queries items v) {p : UInt8 × UInt8}
    (hp : p ∈ queries.filterMap Sent.place?) : rank w.place ≤ rank p := by
  induction h with
  | start => cases hp
  | @round w v u s given queries items hopen hround hrest ih =>
    rcases List.mem_cons.1 hp with rfl | hp
    · exact Nat.le_refl _
    · obtain ⟨q, hq, -⟩ := List.mem_filterMap.1 hp
      have hfarther := hround.rank_lt hopen (hrest.open_of_mem hq)
      exact Nat.le_trans (Nat.le_of_lt hfarther) (ih hp)

/-- Each query is for a place behind that of the one before. -/
theorem pairwise_places (h : Course w queries items v) :
    (queries.filterMap Sent.place?).Pairwise (Prod.Lex (· < ·) (· < ·)) := by
  induction h with
  | start => exact .nil
  | @round w v u s given queries items hopen hround hrest ih =>
    refine List.Pairwise.cons (fun p hp => ?_) ih
    obtain ⟨q, hq, -⟩ := List.mem_filterMap.1 hp
    rw [lex_iff_rank_lt]
    calc
      rank w.place < rank v.place := hround.rank_lt hopen (hrest.open_of_mem hq)
      _ ≤ rank p := hrest.rank_le hp

/-! What is given. -/

/-- The alternates are among the places that were asked for, in the same order. -/
theorem sublist_places (h : Course w queries items v) :
    ((locations items).map InterfaceLocation.place).Sublist (queries.filterMap Sent.place?) := by
  induction h with
  | start => exact .slnil
  | @round w v u s given queries items hopen hround hrest ih =>
    cases hround with
    | found _ => exact ih.cons_cons w.place
    | failed _ _ => exact ih.cons w.place
    | passed _ _ _ => exact ih.cons w.place

/-- An alternate has the descriptor that the backend gave for its pair of indices. -/
theorem found (h : Course w queries items v) {l : InterfaceLocation} (hl : .ok l ∈ items) :
    ∃ u s, Along w u ∧ u.sent s ∈ queries ∧ u.answer s = .ok l.descriptor ∧
      l = u.locate l.descriptor := by
  induction h with
  | start => cases hl
  | @round w v u s given queries items hopen hround hrest ih =>
    rcases List.mem_append.1 hl with hl | hl
    · cases hround with
      | found hanswer =>
        obtain rfl : l = w.locate _ := by simpa using hl
        exact ⟨w, s, along_refl w, List.mem_cons_self, hanswer, rfl⟩
      | failed _ _ => simp at hl
      | passed _ _ _ => simp at hl
    · obtain ⟨x, r, hx, hmem, hanswer⟩ := ih hl
      exact ⟨x, r, hround.along.trans hx, List.mem_cons_of_mem _ hmem, hanswer⟩

/-- A failure is given where it is no missing index, or where it meets the first alternate. -/
theorem failed (h : Course w queries items v) {e : UsbError} (he : .error e ∈ items) :
    ∃ u s, Along w u ∧ u.sent s ∈ queries ∧ u.answer s = .error e ∧
      (e.isMissing = false ∨ u.alternate = 0) := by
  induction h with
  | start => cases he
  | @round w v u s given queries items hopen hround hrest ih =>
    rcases List.mem_append.1 he with he | he
    · cases hround with
      | found _ => simp at he
      | failed hanswer hlast =>
        obtain rfl : e = _ := by simpa using he
        exact ⟨w, s, along_refl w, List.mem_cons_self, hanswer, hlast⟩
      | passed _ _ _ => simp at he
    · obtain ⟨x, r, hx, hmem, hanswer⟩ := ih he
      exact ⟨x, r, hround.along.trans hx, List.mem_cons_of_mem _ hmem, hanswer⟩

/-- Nothing is given behind a failure. -/
theorem error_last (h : Course w queries items v)
    {before behind : List (Except UsbError InterfaceLocation)} {e : UsbError}
    (hitems : items = before ++ .error e :: behind) : behind = [] := by
  induction h generalizing before with
  | start => simp at hitems
  | @round w v u s given queries items hopen hround hrest ih =>
    cases hround with
    | found _ =>
      cases before with
      | nil => cases hitems
      | cons x before =>
        rw [Option.toList_some, List.singleton_append, List.cons_append] at hitems
        exact ih (List.cons.inj hitems).2
    | failed _ _ =>
      have hnone := (hrest.of_finished (finished_stop w)).2
      rw [hnone] at hitems
      have hlength := congrArg List.length hitems
      simp only [Option.toList_some, List.length_append, List.length_cons, List.length_nil] at hlength
      exact List.eq_nil_of_length_eq_zero (by omega)
    | passed _ _ _ => exact ih hitems

/-! The alternates of one interface. -/

/-- No alternate lies in an interface before that of the walk. -/
theorem interface_le (h : Course w queries items v) {l : InterfaceLocation}
    (hl : l ∈ locations items) : w.interface.toNat ≤ l.index.toNat := by
  have hplace := h.sublist_places.subset (List.mem_map_of_mem hl)
  have hrank := h.rank_le hplace
  have hl : rank l.place = l.index.toNat * 256 + l.alternateIndex.toNat := rfl
  have hbyte := UInt8.toNat_lt l.alternateIndex
  rw [rank_place] at hrank
  omega

/-- Behind an interface none of its alternates is found. -/
theorem alternatesOf_eq_nil (h : Course w.nextInterface queries items v)
    (hopen : w.finished = false) : alternatesOf w.interface (locations items) = [] := by
  have hnext := interface_nextInterface hopen
  unfold alternatesOf
  rw [List.map_eq_nil_iff, List.filter_eq_nil_iff]
  intro l hl heq
  have hle := h.interface_le hl
  rw [beq_iff_eq.1 heq] at hle
  omega

/-- The alternates of an interface are counted up without a gap, from where the walk stands if it
stands in that interface, and else from the first one. -/
theorem alternatesOf_eq_range' (h : Course w queries items v) (i : UInt8) :
    ∃ k, alternatesOf i (locations items) =
      List.range' (if i = w.interface then w.alternate.toNat else 0) k := by
  induction h with
  | start => exact ⟨0, rfl⟩
  | @round w v u s given queries items hopen hround hrest ih =>
    -- Where the walk goes on to the next interface, its own one is through.
    have hpassed : v = w.nextInterface → ∃ k, alternatesOf i (locations items) =
        List.range' 0 k ∧ (i = w.interface → k = 0) := by
      rintro rfl
      by_cases hi : i = w.interface
      · rw [hi, hrest.alternatesOf_eq_nil hopen]
        exact ⟨0, rfl, fun _ => rfl⟩
      · obtain ⟨k, hk⟩ := ih
        rw [alternate_nextInterface, UInt8.toNat_zero, ite_self] at hk
        exact ⟨k, hk, fun heq => absurd heq hi⟩
    cases hround with
    | @found descriptor _ =>
      change ∃ k, alternatesOf i (w.locate descriptor :: locations items) = _
      rw [alternatesOf_cons]
      change ∃ k, (if w.interface = i then w.alternate.toNat :: _ else _) = _
      rcases nextAlternate_cases w with ⟨hinterface, halternate⟩ | ⟨-, hnext⟩
      · obtain ⟨k, hk⟩ := ih
        rw [hinterface, halternate] at hk
        by_cases hi : i = w.interface
        · rw [if_pos hi] at hk
          exact ⟨k + 1, by rw [if_pos hi.symm, if_pos hi, hk, List.range'_succ]⟩
        · rw [if_neg hi] at hk
          exact ⟨k, by rw [if_neg (Ne.symm hi), if_neg hi, hk]⟩
      · obtain ⟨k, hk, hzero⟩ := hpassed hnext
        by_cases hi : i = w.interface
        · rw [hzero hi] at hk
          exact ⟨1, by rw [if_pos hi.symm, if_pos hi, hk]; rfl⟩
        · exact ⟨k, by rw [if_neg (Ne.symm hi), if_neg hi, hk]⟩
    | failed _ _ =>
      have hnone := (hrest.of_finished (finished_stop w)).2
      rw [hnone]
      exact ⟨0, rfl⟩
    | passed _ _ _ =>
      obtain ⟨k, hk, hzero⟩ := hpassed rfl
      by_cases hi : i = w.interface
      · rw [hzero hi] at hk
        exact ⟨0, hk⟩
      · exact ⟨k, by rw [if_neg hi]; exact hk⟩

end Course

/-- With each item there are fewer queries to come. -/
theorem Turned.remaining_lt {w : InterfaceWalk} {t : Turn σ} (h : Turned w t)
    {item : Except UsbError InterfaceLocation} (hitem : t.item = some item) :
    t.left.remaining < w.remaining := by
  have hcourse := h.course
  rw [hitem] at hcourse
  have hgiven := hcourse.length_items_le
  have hasked := hcourse.length_add_remaining_le
  rw [Option.toList_some, List.length_singleton] at hgiven
  omega

end InterfaceWalk

end SerialBus
