import SerialBus.Proofs.Walk.Counters
import SerialBus.Proofs.Watched

/-! One step of a walk: the item that is read, the walk that is left, and what the backend was asked
on the way. A step goes round a loop that makes one query in each round, and it ends on any backend. -/
namespace SerialBus

open SerialBus.Action Session

/-- Whether an index was reported as missing. -/
def UsbError.isMissing : UsbError → Bool
  | .invalidDescriptorIndex .. => true
  | _ => false

/-- The pair of indices under which an alternate was found. -/
def InterfaceLocation.place (l : InterfaceLocation) : UInt8 × UInt8 := (l.index, l.alternateIndex)

namespace InterfaceWalk

variable {σ : Type} [Backend σ]

/-- Where the walk stands when there was nothing more to read. -/
def atEnd (w : InterfaceWalk) : InterfaceWalk := if w.finished then w else w.nextInterface

/-- Reads the next item, if there is one, with the walk that is left in either case. -/
def step (w : InterfaceWalk) :
    Action σ (Option (Except UsbError InterfaceLocation) × InterfaceWalk) := do
  match ← w.next with
  | some (item, v) => return (some item, v)
  | none => return (none, w.atEnd)

/-- What follows the answer to a query: an item, or another round at the next interface. -/
def answered (w : InterfaceWalk) : Except UsbError InterfaceDescriptor →
    Action σ (Option (Except UsbError InterfaceLocation) × InterfaceWalk)
  | .ok descriptor => return (some (.ok (w.locate descriptor)), w.nextAlternate)
  | .error e =>
    if e.isMissing && 0 < w.alternate then w.nextInterface.step
    else return (some (.error e), w.stop)

theorem step_of_finished {w : InterfaceWalk} (h : w.finished = true) :
    (w.step : Action σ _) = pure (none, w) := by
  unfold step next atEnd
  rw [h]
  rfl

/-- What the missing index of an alternate other than the first leads to is one more item. -/
theorem next_of_open {w : InterfaceWalk} (h : w.finished = false) :
    (w.next : Action σ _) = w.query >>= fun
      | .ok descriptor => pure (some (.ok (w.locate descriptor), w.nextAlternate))
      | .error e =>
        if e.isMissing && 0 < w.alternate then w.nextInterface.nextHere
        else pure (some (.error e, w.stop)) := by
  unfold next
  rw [h]
  refine bind_congr fun r => ?_
  match r with
  | .ok _ => rfl
  | .error e =>
    cases e with
    | invalidDescriptorIndex => simp [UsbError.isMissing]
    | _ => rfl

theorem nextHere_of_open {w : InterfaceWalk} (h : w.finished = false) :
    (w.nextHere : Action σ _) = w.query >>= fun
      | .ok descriptor => pure (some (.ok (w.locate descriptor), w.nextAlternate))
      | .error e => pure (some (.error e, w.stop)) := by
  unfold nextHere
  rw [h]
  rfl

/-- At the first alternate of an interface there is nothing to pass over. -/
theorem next_of_first {w : InterfaceWalk} (h : w.alternate = 0) :
    (w.next : Action σ _) = w.nextHere := by
  cases hw : w.finished with
  | true =>
    unfold next nextHere
    rw [hw]
    rfl
  | false =>
    rw [next_of_open hw, nextHere_of_open hw]
    refine bind_congr fun r => ?_
    match r with
    | .ok _ => rfl
    | .error e => simp [h]

/-- The loop of a step: a query, and what its answer leads to. -/
theorem step_of_open {w : InterfaceWalk} (h : w.finished = false) :
    (w.step : Action σ _) = w.query >>= w.answered := by
  have hend : w.atEnd = w.nextInterface := by
    unfold atEnd
    rw [h, if_neg Bool.false_ne_true]
  unfold step
  rw [next_of_open h, bind_assoc, hend]
  refine bind_congr fun r => ?_
  match r with
  | .ok _ => rfl
  | .error e =>
    unfold answered
    dsimp only
    split
    next =>
      -- The next interface is over, or it is asked for its first alternate.
      cases hover : w.nextInterface.finished with
      | true =>
        rw [step_of_finished hover]
        unfold nextHere
        rw [hover]
        rfl
      | false =>
        unfold step
        rw [next_of_first (alternate_nextInterface w), nextHere_of_open hover, bind_assoc,
          bind_assoc]
        refine bind_congr fun r => ?_
        match r with
        | .ok _ => rfl
        | .error _ => rfl
    next => rfl

/-! What a step asks the backend, and what it is told. -/

/-- The query that the walk makes of a backend in state `s`. -/
def sent (w : InterfaceWalk) (s : σ) : Sent σ :=
  ⟨.interfaceDescriptor w.device w.interface w.alternate w.config, s⟩

/-- What the backend says to that query. -/
def answer (w : InterfaceWalk) (s : σ) : Except UsbError InterfaceDescriptor :=
  outcome (Backend.interfaceDescriptor w.device w.interface w.alternate w.config) s

theorem outcome_query (w : InterfaceWalk) (s : σ) : outcome w.query s = .ok (w.answer s) :=
  outcome_attempt _ s

theorem outcome_watchedQuery (w : InterfaceWalk) (b : Watched σ) :
    outcome w.query b = .ok (w.answer b.inner) := by
  rw [outcome_query]
  exact congrArg Except.ok (Watched.outcome_watch _ _ b)

theorem after_watchedQuery (w : InterfaceWalk) (b : Watched σ) :
    after w.query b = ⟨after w.query b.inner, b.log ++ [w.sent b.inner]⟩ := by
  unfold query
  rw [after_attempt, after_attempt]
  exact Watched.after_watch _ _ b

/-- One round of the loop: the item that it gives, if any, and the walk that it leads to. -/
inductive Round (w : InterfaceWalk) (s : σ) :
    Option (Except UsbError InterfaceLocation) → InterfaceWalk → Prop
  | found {descriptor : InterfaceDescriptor} (hanswer : w.answer s = .ok descriptor) :
    Round w s (some (.ok (w.locate descriptor))) w.nextAlternate
  | failed {e : UsbError} (hanswer : w.answer s = .error e)
    (hlast : e.isMissing = false ∨ w.alternate = 0) : Round w s (some (.error e)) w.stop
  | passed {e : UsbError} (hanswer : w.answer s = .error e) (hmissing : e.isMissing = true)
    (hbehind : 0 < w.alternate) : Round w s none w.nextInterface

theorem exists_round (w : InterfaceWalk) (s : σ) : ∃ given v, Round w s given v := by
  cases hanswer : w.answer s with
  | ok descriptor => exact ⟨_, _, .found hanswer⟩
  | error e =>
    by_cases hlast : e.isMissing = false ∨ w.alternate = 0
    · exact ⟨_, _, .failed hanswer hlast⟩
    · obtain ⟨hmissing, hbehind⟩ : e.isMissing = true ∧ 0 < w.alternate := by
        simpa [UInt8.pos_iff_ne_zero] using hlast
      exact ⟨_, _, .passed hanswer hmissing hbehind⟩

namespace Round

variable {w v : InterfaceWalk} {s : σ} {given : Option (Except UsbError InterfaceLocation)}

/-- A round without an item is followed by another one. -/
theorem answered_eq (h : Round w s given v) {τ : Type} [Backend τ] :
    (w.answered (w.answer s) : Action τ _) =
      match given with
      | some item => pure (some item, v)
      | none => v.step := by
  cases h with
  | found hanswer =>
    rw [hanswer]
    rfl
  | failed hanswer hlast =>
    rw [hanswer]
    unfold answered
    rcases hlast with hother | hfirst
    · simp [hother]
    · simp [hfirst]
  | passed hanswer hmissing hbehind =>
    rw [hanswer]
    unfold answered
    simp [hmissing, hbehind]

theorem along (h : Round w s given v) : Along w v := by
  cases h with
  | found _ => exact along_nextAlternate w
  | failed _ _ => exact along_stop w
  | passed _ _ _ => exact along_nextInterface w

/-- Unless the walk is over then, it stands farther on. -/
theorem rank_lt (h : Round w s given v) (hopen : w.finished = false) (hv : v.finished = false) :
    rank w.place < rank v.place := by
  cases h with
  | found _ =>
    rw [rank_nextAlternate hopen]
    exact Nat.lt_succ_self _
  | failed _ _ => exact absurd hv (by simp)
  | passed _ _ _ => exact rank_lt_nextInterface hopen

theorem remaining_lt (h : Round w s given v) (hopen : w.finished = false) :
    v.remaining < w.remaining :=
  InterfaceWalk.remaining_lt hopen h.along (h.rank_lt hopen)

end Round

/-- One step as it is seen from outside. -/
structure Turn (σ : Type) where
  item : Option (Except UsbError InterfaceLocation)
  /-- The calls that reached the backend, with the states that they met. -/
  asked : List (Sent σ)
  left : InterfaceWalk

/-- The step of the walk on a backend in state `s` ends, and this is what it did. -/
structure Takes (w : InterfaceWalk) (s : σ) (t : Turn σ) : Prop where
  gives : outcome w.step s = .ok (t.item, t.left)
  asks : ∀ log, (after w.step (⟨s, log⟩ : Watched σ)).log = log ++ t.asked

/-- A step by its rounds: the last of them gives an item, or the walk is over. -/
inductive Turned : InterfaceWalk → Turn σ → Prop
  | ended {w : InterfaceWalk} (h : w.finished = true) : Turned w ⟨none, [], w⟩
  | item {w v : InterfaceWalk} {s : σ} {item : Except UsbError InterfaceLocation}
    (hopen : w.finished = false) (hround : Round w s (some item) v) :
    Turned w ⟨some item, [w.sent s], v⟩
  | passed {w v : InterfaceWalk} {s : σ} {t : Turn σ} (hopen : w.finished = false)
    (hround : Round w s none v) (hrest : Turned v t) :
    Turned w ⟨t.item, w.sent s :: t.asked, t.left⟩

theorem takes_of_finished {w : InterfaceWalk} (h : w.finished = true) (s : σ) :
    Takes w s ⟨none, [], w⟩ := by
  constructor
  · rw [step_of_finished h]
    rfl
  · intro log
    rw [step_of_finished h]
    exact (List.append_nil log).symm

/-- A step that begins with a query goes on with what its answer leads to. -/
theorem takes_of_answered {w : InterfaceWalk} {s : σ} {t : Turn σ} (hopen : w.finished = false)
    (hgives : outcome (w.answered (w.answer s)) (after w.query s) = .ok (t.item, t.left))
    (hasks : ∀ log, (after (w.answered (w.answer s))
      (⟨after w.query s, log⟩ : Watched σ)).log = log ++ t.asked) :
    Takes w s ⟨t.item, w.sent s :: t.asked, t.left⟩ := by
  constructor
  · rw [step_of_open hopen, outcome_bind_ok _ (outcome_query w s)]
    exact hgives
  · intro log
    rw [step_of_open hopen, after_bind_ok _ (outcome_watchedQuery w ⟨s, log⟩), after_watchedQuery,
      hasks, List.append_assoc]
    rfl

theorem takes_of_item {w v : InterfaceWalk} {s : σ} {item : Except UsbError InterfaceLocation}
    (hopen : w.finished = false) (hround : Round w s (some item) v) :
    Takes w s ⟨some item, [w.sent s], v⟩ := by
  apply takes_of_answered (t := ⟨some item, [], v⟩) hopen
  · rw [hround.answered_eq]
    rfl
  · intro log
    rw [hround.answered_eq]
    exact (List.append_nil log).symm

theorem takes_of_passed {w v : InterfaceWalk} {s : σ} {t : Turn σ} (hopen : w.finished = false)
    (hround : Round w s none v) (hrest : Takes v (after w.query s) t) :
    Takes w s ⟨t.item, w.sent s :: t.asked, t.left⟩ := by
  apply takes_of_answered hopen
  · rw [hround.answered_eq]
    exact hrest.gives
  · intro log
    rw [hround.answered_eq]
    exact hrest.asks log

/-- On any backend a step comes to an end, and it is one round after the other: with each of them
fewer queries remain. -/
theorem exists_takes (w : InterfaceWalk) (s : σ) : ∃ t : Turn σ, Takes w s t ∧ Turned w t := by
  generalize hremaining : w.remaining = n
  induction n using Nat.strongRecOn generalizing w s with
  | ind n ih =>
    cases hopen : w.finished with
    | true => exact ⟨_, takes_of_finished hopen s, .ended hopen⟩
    | false =>
      obtain ⟨given, v, hround⟩ := exists_round w s
      cases given with
      | some item => exact ⟨_, takes_of_item hopen hround, .item hopen hround⟩
      | none =>
        have hfewer := hround.remaining_lt hopen
        obtain ⟨t, htakes, hturned⟩ := ih _ (hremaining ▸ hfewer) v (after w.query s) rfl
        exact ⟨_, takes_of_passed hopen hround htakes, .passed hopen hround hturned⟩

/-- What a step does is determined by where it is made. -/
theorem Takes.unique {w : InterfaceWalk} {s : σ} {t u : Turn σ} (h : Takes w s t)
    (g : Takes w s u) : t = u := by
  have hgives := h.gives.symm.trans g.gives
  have hasks := (h.asks []).symm.trans (g.asks [])
  cases t
  cases u
  simp_all

theorem Takes.turned {w : InterfaceWalk} {s : σ} {t : Turn σ} (h : Takes w s t) : Turned w t := by
  obtain ⟨u, htakes, hturned⟩ := exists_takes w s
  exact h.unique htakes ▸ hturned

theorem Takes.outcome_next {w : InterfaceWalk} {s : σ} {t : Turn σ} (h : Takes w s t) :
    outcome w.next s = .ok (t.item.map fun item => (item, t.left)) := by
  have hgives := h.gives
  unfold step at hgives
  rw [outcome_bind] at hgives
  cases hnext : outcome w.next s with
  | error e =>
    rw [hnext] at hgives
    cases hgives
  | ok r =>
    rw [hnext] at hgives
    match r with
    | none =>
      obtain ⟨hitem, -⟩ := Prod.mk.inj (Except.ok.inj hgives)
      rw [← hitem]
      rfl
    | some (item, v) =>
      obtain ⟨hitem, hleft⟩ := Prod.mk.inj (Except.ok.inj hgives)
      rw [← hitem, ← hleft]
      rfl

/-! What a single step tells of the walk that it leaves. -/

namespace Turned

variable {w : InterfaceWalk} {t : Turn σ}

theorem along (h : Turned w t) : Along w t.left := by
  induction h with
  | ended _ => exact along_refl _
  | item _ hround => exact hround.along
  | passed _ hround _ ih => exact hround.along.trans ih

/-- A step that gave no alternate leaves a walk that is over. -/
theorem left_finished (h : Turned w t) (hitem : ∀ l, t.item ≠ some (.ok l)) :
    t.left.finished = true := by
  induction h with
  | ended hover => exact hover
  | item _ hround =>
    cases hround with
    | found _ => exact absurd rfl (hitem _)
    | failed _ _ => exact finished_stop _
  | passed _ _ _ ih => exact ih hitem

/-- A step that gave an alternate leaves the walk behind it. -/
theorem left_of_found (h : Turned w t) {l : InterfaceLocation} (hl : t.item = some (.ok l)) :
    ∃ u, Along w u ∧ u.finished = false ∧ u.place = l.place ∧ t.left = u.nextAlternate := by
  induction h with
  | ended _ => cases hl
  | @item w v s item hopen hround =>
    cases hround with
    | found _ =>
      cases hl
      exact ⟨w, along_refl w, hopen, rfl, rfl⟩
    | failed _ _ => cases hl
  | passed _ hround _ ih =>
    obtain ⟨u, hu, hrest⟩ := ih hl
    exact ⟨u, hround.along.trans hu, hrest⟩

/-- Where an open walk gave nothing, it asked for one alternate behind another, and was told that
the index is missing. -/
theorem asked_of_none (h : Turned w t) (hopen : w.finished = false) (hnone : t.item = none) :
    0 < w.alternate ∧ ∃ s e, t.asked = [w.sent s] ∧ w.answer s = .error e ∧ e.isMissing = true := by
  cases h with
  | ended hover => exact absurd hover (by simp [hopen])
  | item _ _ => cases hnone
  | passed _ hround hrest =>
    cases hround with
    | @passed e hanswer hmissing hbehind =>
      cases hrest with
      | ended _ => exact ⟨hbehind, _, _, rfl, hanswer, hmissing⟩
      | item _ _ => cases hnone
      | passed _ hround _ =>
        cases hround with
        | passed _ _ hbehind => exact absurd hbehind (by simp)

end Turned

end InterfaceWalk

end SerialBus
