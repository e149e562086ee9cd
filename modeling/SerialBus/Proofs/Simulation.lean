import SerialBus.Proofs.Action
import SerialBus.Cursor

/-! Operations in step with one another: from related states they return the same and lead to
related states. What is put together from such operations is in step too. -/
namespace SerialBus

open SerialBus.Action

variable {σ τ ρ α β : Type}

def Simulates (P : σ → τ → Prop) (act : Action σ α) (model : Action τ α) : Prop :=
  ∀ s t, P s t → outcome act s = outcome model t ∧ P (after act s) (after model t)

/-- In step from one pair of states at least. -/
def SimulatesAt (P : σ → τ → Prop) (act : Action σ α) (model : Action τ α) (s : σ) (t : τ) : Prop :=
  outcome act s = outcome model t ∧ P (after act s) (after model t)

section

variable {P : σ → τ → Prop}

theorem SimulatesAt.bind {x : Action σ α} {y : Action τ α} {f : α → Action σ β}
    {g : α → Action τ β} {s : σ} {t : τ} (hx : SimulatesAt P x y s t)
    (hf : ∀ a, outcome x s = .ok a → SimulatesAt P (f a) (g a) (after x s) (after y t)) :
    SimulatesAt P (x >>= f) (y >>= g) s t := by
  obtain ⟨ho, hs⟩ := hx
  unfold SimulatesAt
  rw [outcome_bind, outcome_bind, after_bind, after_bind, ← ho]
  cases hr : outcome x s with
  | error e => exact ⟨rfl, hs⟩
  | ok a => exact hf a hr

/-- What follows is in step from wherever the first operations lead to. -/
theorem SimulatesAt.followed {x : Action σ α} {y : Action τ α} {f : α → Action σ β}
    {g : α → Action τ β} {s : σ} {t : τ} (hx : SimulatesAt P x y s t)
    (hf : ∀ a, Simulates P (f a) (g a)) : SimulatesAt P (x >>= f) (y >>= g) s t :=
  hx.bind fun a _ => hf a _ _ hx.2

theorem simulates_pure (a : α) : Simulates P (pure a) (pure a) := fun _ _ h => ⟨rfl, h⟩

theorem simulates_throw (e : UsbError) :
    Simulates P (throw e : Action σ α) (throw e : Action τ α) := fun _ _ h => ⟨rfl, h⟩

theorem simulates_liftResult (r : Except UsbError α) :
    Simulates P (liftResult r) (liftResult r) := by
  cases r with
  | ok a => exact simulates_pure a
  | error e => exact simulates_throw e

theorem Simulates.bind {x : Action σ α} {y : Action τ α} {f : α → Action σ β}
    {g : α → Action τ β} (hx : Simulates P x y) (hf : ∀ a, Simulates P (f a) (g a)) :
    Simulates P (x >>= f) (y >>= g) := fun s t h =>
  SimulatesAt.followed (hx s t h) hf

theorem simulates_map_iff {x : Action σ α} {y : Action τ α} {r : α → α} (hr : ∀ a, r a = a) :
    Simulates P x (r <$> y) ↔ Simulates P x y := by
  obtain rfl : r = id := funext hr
  rw [id_map]

/-- The second operation goes on with what the first one returned, which is the image of what the
other first operation returned. -/
theorem Simulates.mapBind {γ : Type} {r : α → γ} {x : Action σ γ} {y : Action τ α}
    {f : γ → Action σ β} {g : α → Action τ β} (hx : Simulates P x (r <$> y))
    (hf : ∀ a, Simulates P (f (r a)) (g a)) : Simulates P (x >>= f) (y >>= g) := by
  intro s t h
  obtain ⟨ho, hs⟩ := hx s t h
  rw [outcome_map] at ho
  rw [after_map] at hs
  rw [outcome_bind, outcome_bind, after_bind, after_bind, ho]
  cases outcome y t with
  | error e => exact ⟨rfl, hs⟩
  | ok a => exact hf a _ _ hs

theorem Simulates.attempted {act : Action σ α} {model : Action τ α} (h : Simulates P act model) :
    Simulates P (attempt act) (attempt model) := by
  intro s t hp
  obtain ⟨ho, hs⟩ := h s t hp
  rw [outcome_attempt, outcome_attempt, after_attempt, after_attempt, ho]
  exact ⟨rfl, hs⟩

theorem simulates_ite {c : Prop} [Decidable c] {x y : Action σ α} {v w : Action τ α}
    (hx : Simulates P x v) (hy : Simulates P y w) :
    Simulates P (if c then x else y) (if c then v else w) := by
  split
  · exact hx
  · exact hy

end

namespace Cursor

variable {P : σ → τ → Prop} {c : Cursor σ ρ α} {m : Cursor τ ρ α}

/-- Two ways to read the same sequence, in step with one another. -/
structure InStep (P : σ → τ → Prop) (c : Cursor σ ρ α) (m : Cursor τ ρ α) : Prop where
  bound : c.bound = m.bound
  next : ∀ p, Simulates P (c.next p) (m.next p)

theorem InStep.find (h : InStep P c m) (test : α → Bool) (p : ρ) :
    Simulates P (c.find test p) (m.find test p) := by
  unfold Cursor.find
  rw [h.bound]
  induction m.bound p generalizing p with
  | zero => exact simulates_pure _
  | succ fuel ih =>
    refine (h.next p).bind fun item => ?_
    match item with
    | none => exact simulates_pure _
    | some (.error e, _) => exact simulates_throw e
    | some (.ok a, q) => exact simulates_ite (simulates_pure _) (ih q)

theorem InStep.filter (h : InStep P c m) (test : α → Bool) (p : ρ) :
    Simulates P (c.filter test p) (m.filter test p) := by
  unfold Cursor.filter
  rw [h.bound]
  induction m.bound p generalizing p with
  | zero => exact simulates_pure _
  | succ fuel ih =>
    refine (h.next p).bind fun item => ?_
    match item with
    | none => exact simulates_pure _
    | some (.error e, _) => exact simulates_throw e
    | some (.ok a, q) => exact (ih q).bind fun _ => simulates_pure _

theorem InStep.forEach (h : InStep P c m) {f : Except UsbError α → Action σ β}
    {g : Except UsbError α → Action τ β} (hf : ∀ item, Simulates P (f item) (g item)) (p : ρ) :
    Simulates P (c.forEach f p) (m.forEach g p) := by
  unfold Cursor.forEach
  rw [h.bound]
  induction m.bound p generalizing p with
  | zero => exact simulates_pure _
  | succ fuel ih =>
    refine (h.next p).bind fun item => ?_
    match item with
    | none => exact simulates_pure _
    | some (item, q) => exact (hf item).bind fun b => (ih q).bind fun _ => simulates_pure _

theorem inStep_ofIndex (count : Nat) {load : Nat → Action σ α} {model : Nat → Action τ α}
    (h : ∀ i, Simulates P (load i) (model i)) :
    InStep P (Cursor.ofIndex count load) (Cursor.ofIndex count model) :=
  ⟨rfl, fun i => simulates_ite ((h i).attempted.bind fun _ => simulates_pure _) (simulates_pure _)⟩

end Cursor

end SerialBus
