import SerialBus.Proofs.Walk.Course
import SerialBus.Loopback.Operations

/-! Walks in order on any backend, whatever it answers from one query to the next: a walk comes to
its end within 256 queries for each interface, it gives each alternate at most once and in
lexicographic order, and a failure is its last item. The step that finds the end behind an alternate
has to ask for the next one. -/
namespace SerialBus.InterfaceWalk

open SerialBus.Action Session

variable {σ : Type} [Backend σ]

/-- Steps of a walk one after the other, each on a backend in the next of the states: between two
steps the backend may have been changed in any way. -/
inductive Taken : InterfaceWalk → List σ → List (Turn σ) → Prop
  | nil (w : InterfaceWalk) : Taken w [] []
  | cons {w : InterfaceWalk} {s : σ} {t : Turn σ} {states : List σ} {turns : List (Turn σ)}
    (htakes : Takes w s t) (hrest : Taken t.left states turns) :
    Taken w (s :: states) (t :: turns)

/-- All calls that reached the backend during the steps. -/
def queries (turns : List (Turn σ)) : List (Sent σ) := turns.flatMap (·.asked)

def items (turns : List (Turn σ)) : List (Except UsbError InterfaceLocation) :=
  turns.filterMap (·.item)

theorem exists_taken (w : InterfaceWalk) (states : List σ) :
    ∃ turns : List (Turn σ), Taken w states turns := by
  induction states generalizing w with
  | nil => exact ⟨[], .nil w⟩
  | cons s states ih =>
    obtain ⟨t, htakes, -⟩ := exists_takes w s
    obtain ⟨turns, hrest⟩ := ih t.left
    exact ⟨t :: turns, .cons htakes hrest⟩

namespace Taken

variable {w : InterfaceWalk} {states : List σ} {turns : List (Turn σ)}

theorem course (h : Taken w states turns) : ∃ v, Course w (queries turns) (items turns) v := by
  induction h with
  | nil w => exact ⟨w, .start w⟩
  | @cons w s t states turns htakes _ ih =>
    obtain ⟨v, hrest⟩ := ih
    have hcourse := htakes.turned.course.trans hrest
    refine ⟨v, ?_⟩
    cases hitem : t.item with
    | none => simpa [queries, items, hitem] using hcourse
    | some item => simpa [queries, items, hitem] using hcourse

/-- Nothing is asked and nothing is given where the walk is over. -/
theorem of_finished (h : Taken w states turns) (hover : w.finished = true) :
    ∀ t ∈ turns, t.item = none ∧ t.asked = [] := by
  induction h with
  | nil => exact nofun
  | @cons w s t states turns htakes _ ih =>
    obtain rfl : t = ⟨none, [], w⟩ := htakes.unique (takes_of_finished hover s)
    intro t ht
    rcases List.mem_cons.1 ht with rfl | ht
    · exact ⟨rfl, rfl⟩
    · exact ih hover t ht

/-- One of the steps, with the walk that it was made from and the steps behind it. -/
theorem split {before behind : List (Turn σ)} {t : Turn σ}
    (h : Taken w states (before ++ t :: behind)) :
    ∃ u rest, Along w u ∧ Turned u t ∧ Taken t.left rest behind := by
  induction before generalizing w states with
  | nil =>
    cases h with
    | cons htakes hrest => exact ⟨w, _, along_refl w, htakes.turned, hrest⟩
  | cons x before ih =>
    cases h with
    | cons htakes hrest =>
      obtain ⟨u, rest, hu, hturned⟩ := ih hrest
      exact ⟨u, rest, htakes.turned.along.trans hu, hturned⟩

theorem turned_of_mem (h : Taken w states turns) {t : Turn σ} (ht : t ∈ turns) :
    ∃ u, Along w u ∧ Turned u t := by
  obtain ⟨before, behind, rfl⟩ := List.append_of_mem ht
  obtain ⟨u, _, hu, hturned, -⟩ := h.split
  exact ⟨u, hu, hturned⟩

end Taken

/-! Everything in order. -/

/-- The start of a walk through a configuration that declares `n` interfaces. -/
def fresh (id : DeviceId) (config n : UInt8) : InterfaceWalk :=
  { device := id, config, numInterfaces := n }

/-- The call is the query for a pair of indices, and this is what the backend answered. -/
structure Answered (id : DeviceId) (config : UInt8) (p : UInt8 × UInt8)
    (answer : Except UsbError InterfaceDescriptor) (q : Sent σ) : Prop where
  call : q.call = .interfaceDescriptor id p.1 p.2 config
  answer : outcome (Backend.interfaceDescriptor id p.1 p.2 config) q.met = answer

/-- Steps in order, for a walk through a configuration that declares `n` interfaces. -/
structure Orderly (id : DeviceId) (config n : UInt8) (turns : List (Turn σ)) : Prop where
  /-- Each call is the query of an open walk, whose counters count exactly. -/
  counted : ∀ q ∈ queries turns, ∃ u : InterfaceWalk, u.finished = false ∧ u.numInterfaces = n ∧
    q.call = .interfaceDescriptor id u.interface u.alternate config ∧ u.Counts
  queries_le : (queries turns).length ≤ 256 * n.toNat
  /-- No pair of indices is asked for twice. -/
  asked_once : ((queries turns).filterMap Sent.place?).Pairwise (Prod.Lex (· < ·) (· < ·))
  /-- So many steps come to the end. -/
  ends : 256 * n.toNat < turns.length → ∃ t ∈ turns, t.item = none
  increasing : ((locations (items turns)).map InterfaceLocation.place).Pairwise
    (Prod.Lex (· < ·) (· < ·))
  index_lt : ∀ l ∈ locations (items turns), l.index < n
  /-- An alternate comes with what the same step was told about its pair of indices. -/
  answered : ∀ t ∈ turns, ∀ l, t.item = some (.ok l) →
    l.config = config ∧ ∃ q ∈ t.asked, Answered id config l.place (.ok l.descriptor) q
  gapless : ∀ i, ∃ k, alternatesOf i (locations (items turns)) = List.range k
  error_last : ∀ before e behind, items turns = before ++ .error e :: behind → behind = []
  error_cause : ∀ t ∈ turns, ∀ e, t.item = some (.error e) →
    ∃ q ∈ t.asked, ∃ p, Answered id config p (.error e) q ∧ (e.isMissing = false ∨ p.2 = 0)
  /-- Behind a step that gave no alternate nothing is given and nothing is asked. -/
  quiet : ∀ before t behind, turns = before ++ t :: behind → (∀ l, t.item ≠ some (.ok l)) →
    ∀ u ∈ behind, u.item = none ∧ u.asked = []
  /-- The step that finds the end behind an alternate has asked for the next one, unless there is
  no further index. -/
  lookahead : ∀ before t u behind l, turns = before ++ t :: u :: behind →
    t.item = some (.ok l) → u.item = none →
    if l.alternateIndex = 255 then u.asked = []
    else ∃ q e, u.asked = [q] ∧ e.isMissing = true ∧
      Answered id config (l.index, l.alternateIndex + 1) (.error e) q

section

variable {id : DeviceId} {config n : UInt8}

theorem remaining_fresh (id : DeviceId) (config n : UInt8) :
    (fresh id config n).remaining ≤ 256 * n.toNat := by
  have hstart : (fresh id config n).interface.toNat = 0 := rfl
  have hcount : (fresh id config n).numInterfaces.toNat = n.toNat := rfl
  unfold remaining
  split
  · exact Nat.zero_le _
  · omega

/-- What a walk asks and is told. -/
theorem answered_sent {u : InterfaceWalk} (hu : Along (fresh id config n) u) (s : σ) :
    Answered id config u.place (u.answer s) (u.sent s) := by
  obtain ⟨rfl, rfl, -⟩ : u.device = id ∧ u.config = config ∧ u.numInterfaces = n :=
    ⟨hu.device, hu.config, hu.numInterfaces⟩
  exact ⟨rfl, rfl⟩

namespace Taken

variable {states : List σ} {turns : List (Turn σ)} (h : Taken (fresh id config n) states turns)

include h

theorem ends (hlong : 256 * n.toNat < turns.length) : ∃ t ∈ turns, t.item = none := by
  by_cases hend : ∃ t ∈ turns, t.item = none
  · exact hend
  · obtain ⟨v, hcourse⟩ := h.course
    have hgiven := hcourse.length_items_le
    have hasked := hcourse.length_add_remaining_le
    have hbound := remaining_fresh id config n
    have hitems : (items turns).length = turns.length := by
      unfold items
      rw [List.length_filterMap_eq_countP, List.countP_eq_length]
      intro t ht
      rw [Option.isSome_iff_ne_none]
      exact fun hnone => hend ⟨t, ht, hnone⟩
    omega

theorem counted {q : Sent σ} (hq : q ∈ queries turns) :
    ∃ u : InterfaceWalk, u.finished = false ∧ u.numInterfaces = n ∧
      q.call = .interfaceDescriptor id u.interface u.alternate config ∧ u.Counts := by
  obtain ⟨v, hcourse⟩ := h.course
  obtain ⟨u, hu, hopen, hsent⟩ := hcourse.asking hq
  have hanswered : Answered id config u.place _ (u.sent q.met) := answered_sent hu q.met
  rw [← hsent] at hanswered
  exact ⟨u, hopen, hu.numInterfaces, hanswered.call, counts hopen⟩

theorem index_lt {l : InterfaceLocation} (hl : l ∈ locations (items turns)) : l.index < n := by
  obtain ⟨v, hcourse⟩ := h.course
  obtain ⟨q, hq, hplace⟩ := List.mem_filterMap.1
    (hcourse.sublist_places.subset (List.mem_map_of_mem hl))
  obtain ⟨u, hu, hopen, hsent⟩ := hcourse.asking hq
  have hlt := interface_lt hopen
  rw [hsent] at hplace
  have hindex : u.interface = l.index := congrArg Prod.fst (Option.some.inj hplace)
  rw [hu.numInterfaces, hindex] at hlt
  exact UInt8.lt_iff_toNat_lt.2 hlt

theorem answered {t : Turn σ} (ht : t ∈ turns) {l : InterfaceLocation}
    (hl : t.item = some (.ok l)) :
    l.config = config ∧ ∃ q ∈ t.asked, Answered id config l.place (.ok l.descriptor) q := by
  obtain ⟨u, hu, hturned⟩ := h.turned_of_mem ht
  have hcourse := hturned.course
  rw [hl] at hcourse
  obtain ⟨x, s, hx, hmem, hanswer, hlocate⟩ := hcourse.found List.mem_cons_self
  have hanswered := answered_sent (hu.trans hx) s
  rw [hanswer] at hanswered
  have hplace : l.place = x.place := by rw [hlocate]; rfl
  have hconfig : l.config = x.config := by rw [hlocate]; rfl
  exact ⟨hconfig.trans (hu.trans hx).config, _, hmem, hplace ▸ hanswered⟩

theorem error_cause {t : Turn σ} (ht : t ∈ turns) {e : UsbError}
    (he : t.item = some (.error e)) :
    ∃ q ∈ t.asked, ∃ p, Answered id config p (.error e) q ∧ (e.isMissing = false ∨ p.2 = 0) := by
  obtain ⟨u, hu, hturned⟩ := h.turned_of_mem ht
  have hcourse := hturned.course
  rw [he] at hcourse
  obtain ⟨x, s, hx, hmem, hanswer, hlast⟩ := hcourse.failed List.mem_cons_self
  have hanswered := answered_sent (hu.trans hx) s
  rw [hanswer] at hanswered
  exact ⟨_, hmem, x.place, hanswered, hlast⟩

theorem quiet {before behind : List (Turn σ)} {t : Turn σ} (hturns : turns = before ++ t :: behind)
    (hitem : ∀ l, t.item ≠ some (.ok l)) : ∀ u ∈ behind, u.item = none ∧ u.asked = [] := by
  subst hturns
  obtain ⟨u, rest, -, hturned, hbehind⟩ := h.split
  exact hbehind.of_finished (hturned.left_finished hitem)

theorem lookahead {before behind : List (Turn σ)} {t u : Turn σ} {l : InterfaceLocation}
    (hturns : turns = before ++ t :: u :: behind) (hl : t.item = some (.ok l))
    (hnone : u.item = none) :
    if l.alternateIndex = 255 then u.asked = []
    else ∃ q e, u.asked = [q] ∧ e.isMissing = true ∧
      Answered id config (l.index, l.alternateIndex + 1) (.error e) q := by
  subst hturns
  obtain ⟨x, rest, hx, hturned, hbehind⟩ := h.split
  obtain ⟨y, hy, hopen, hplace, hleft⟩ := hturned.left_of_found hl
  obtain ⟨hinterface, halternate⟩ := Prod.mk.inj hplace
  cases hbehind with
  | cons htakes _ =>
    split
    next hlast =>
      -- The walk stands before the first alternate of the next interface, if there is one.
      rw [hleft, nextAlternate_of_eq (halternate.trans hlast)] at htakes
      cases hover : y.nextInterface.finished with
      | true =>
        rw [htakes.unique (takes_of_finished hover _)]
      | false =>
        obtain ⟨hbehind, -⟩ := htakes.turned.asked_of_none hover hnone
        exact absurd hbehind (by simp)
    next hlast =>
      rw [hleft, nextAlternate_of_ne (halternate ▸ hlast)] at htakes
      obtain ⟨-, s, e, hasked, hanswer, hmissing⟩ := htakes.turned.asked_of_none hopen hnone
      have hnext : Along (fresh id config n) { y with alternate := y.alternate + 1 } :=
        hx.trans (hy.trans ⟨rfl, rfl, rfl⟩)
      have hanswered := answered_sent hnext s
      rw [hanswer] at hanswered
      rw [← hinterface, ← halternate]
      exact ⟨_, e, hasked, hmissing, hanswered⟩

theorem orderly : Orderly id config n turns := by
  obtain ⟨v, hcourse⟩ := h.course
  constructor
  case counted => exact fun q hq => h.counted hq
  case queries_le =>
    have hasked := hcourse.length_add_remaining_le
    have hbound := remaining_fresh id config n
    omega
  case asked_once => exact hcourse.pairwise_places
  case ends => exact h.ends
  case increasing => exact hcourse.pairwise_places.sublist hcourse.sublist_places
  case index_lt => exact fun l hl => h.index_lt hl
  case answered => exact fun t ht l hl => h.answered ht hl
  case gapless =>
    intro i
    obtain ⟨k, hk⟩ := hcourse.alternatesOf_eq_range' i
    have hfirst : (fresh id config n).alternate.toNat = 0 := rfl
    rw [hfirst, ite_self] at hk
    exact ⟨k, hk.trans List.range_eq_range'.symm⟩
  case error_last => exact fun before e behind heq => hcourse.error_last heq
  case error_cause => exact fun t ht e he => h.error_cause ht he
  case quiet => exact fun before t behind heq hitem => h.quiet heq hitem
  case lookahead => exact fun before t u behind l heq hl hnone => h.lookahead heq hl hnone

end Taken

end

/-! The items of a walk that is read to its end. -/

/-- As many readings as queries remain come to the end of the walk, where a step gives nothing. -/
theorem exists_taken_items (w : InterfaceWalk) (s : σ) {fuel : Nat} (hfuel : w.remaining ≤ fuel) :
    ∃ states turns t, Taken w (s :: states) (turns ++ [t]) ∧ t.item = none ∧
      outcome (cursor.forEachUpTo (fun item => pure item) fuel w) s = .ok (items turns) := by
  induction fuel generalizing w s with
  | zero =>
    obtain ⟨t, htakes, hturned⟩ := exists_takes w s
    have hnone : t.item = none := by
      cases hitem : t.item with
      | none => rfl
      | some item =>
        have hfewer := hturned.remaining_lt hitem
        omega
    exact ⟨[], [], t, .cons htakes (.nil _), hnone, rfl⟩
  | succ fuel ih =>
    obtain ⟨t, htakes, hturned⟩ := exists_takes w s
    have hnext := htakes.outcome_next
    unfold Cursor.forEachUpTo
    cases hitem : t.item with
    | none =>
      rw [hitem] at hnext
      refine ⟨[], [], t, .cons htakes (.nil _), hitem, ?_⟩
      exact outcome_bind_ok _ hnext
    | some item =>
      rw [hitem] at hnext
      have hfewer := hturned.remaining_lt hitem
      obtain ⟨states, turns, last, htaken, hlast, hrest⟩ := ih t.left (after w.next s) (by omega)
      refine ⟨_, t :: turns, last, .cons htakes htaken, hlast, ?_⟩
      have hitems : items (t :: turns) = item :: items turns := by
        unfold items
        rw [List.filterMap_cons_some hitem]
      rw [hitems]
      refine (outcome_bind_ok _ hnext).trans ?_
      exact (outcome_bind_ok _ hrest).trans rfl

/-- A walk on any backend, whatever it answers and however it is changed between the steps: steps can
always be taken, all that are taken are in order, and reading the walk to the end gives the items of
steps that come to the end. -/
theorem walks_in_order (id : DeviceId) (config n : UInt8) :
    (∀ states : List σ, ∃ turns, Taken (fresh id config n) states turns) ∧
    (∀ (states : List σ) turns, Taken (fresh id config n) states turns →
      Orderly id config n turns) ∧
    ∀ s : σ, ∃ states turns t, Taken (fresh id config n) (s :: states) (turns ++ [t]) ∧
      t.item = none ∧ outcome (cursor.items (fresh id config n)) s = .ok (items turns) := by
  refine ⟨exists_taken (fresh id config n), fun states turns htaken => htaken.orderly, ?_⟩
  exact fun s => exists_taken_items (fresh id config n) s (Nat.le_refl _)

/-- The walk through the single alternate of a device in memory is read to its end in two steps. -/
theorem walks_in_order_single :
    let b : Loopback.Bus := .ofDevices [.bulkLoopback 0x04D8 0xFA2E]
    ∃ states turns t, Taken (fresh ⟨0⟩ 0 1) (b :: states) (turns ++ [t]) ∧
      Orderly ⟨0⟩ 0 1 (turns ++ [t]) ∧ t.item = none ∧ (items turns).length = 1 := by
  intro b
  obtain ⟨-, horderly, hread⟩ := walks_in_order (σ := Loopback.Bus) ⟨0⟩ 0 1
  obtain ⟨states, turns, t, htaken, hlast, hitems⟩ := hread b
  have hlength : (outcome (cursor.items (fresh ⟨0⟩ 0 1)) b).map List.length = .ok 1 := by rfl
  rw [hitems] at hlength
  exact ⟨states, turns, t, htaken, horderly _ _ htaken, hlast, Except.ok.inj hlength⟩

/-- The walk through the single alternate of a device in memory: the step behind that alternate
gives nothing, as do all further steps, but it has asked for a second alternate. -/
theorem asked_behind_last_item :
    let b : Loopback.Bus := .ofDevices [.bulkLoopback 0x04D8 0xFA2E]
    ∃ t u : Turn Loopback.Bus,
      Taken (fresh ⟨0⟩ 0 1) [b, after (fresh ⟨0⟩ 0 1).next b] [t, u] ∧
      (∃ l, t.item = some (.ok l)) ∧ u.item = none ∧
      (∀ (states : List Loopback.Bus) turns, Taken u.left states turns →
        ∀ x ∈ turns, x.item = none) ∧
      u.asked.length = 1 := by
  intro b
  have hanswer : (fresh ⟨0⟩ 0 1).answer b = .ok { interfaceClass := 0xFF, numEndpoints := 2 } := rfl
  have hfound : Round (fresh ⟨0⟩ 0 1) b _ _ := .found hanswer
  have hmissing : (fresh ⟨0⟩ 0 1).nextAlternate.answer (after (fresh ⟨0⟩ 0 1).next b) =
      .error (.invalidDescriptorIndex .alternateSetting 1) := rfl
  have hpassed : Round (fresh ⟨0⟩ 0 1).nextAlternate (after (fresh ⟨0⟩ 0 1).next b) none _ :=
    .passed hmissing rfl (by decide)
  have hover : (fresh ⟨0⟩ 0 1).nextAlternate.nextInterface.finished = true := rfl
  refine ⟨_, _, .cons (takes_of_item rfl hfound) (.cons
    (takes_of_passed rfl hpassed (takes_of_finished hover _)) (.nil _)), ⟨_, rfl⟩, rfl, ?_, rfl⟩
  intro states turns htaken x hx
  exact (htaken.of_finished hover x hx).1

end SerialBus.InterfaceWalk
