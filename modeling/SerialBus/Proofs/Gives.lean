import SerialBus.Proofs.Action

/-! Operations by their results: from states with one property an operation returns a known result
and leaves states with another, or at least none but a fit result. -/
namespace SerialBus

open SerialBus.Action

variable {σ α β : Type}

/-- Whatever the operation does, it leaves states with the property, and a result that is fit. -/
def Meets (P : σ → Prop) (act : Action σ α) (R : α → Prop) : Prop :=
  ∀ s, P s → P (after act s) ∧ ∀ a, outcome act s = .ok a → R a

def Gives (P : σ → Prop) (act : Action σ α) (r : Except UsbError α) (Q : σ → Prop) : Prop :=
  ∀ s, P s → outcome act s = r ∧ Q (after act s)

/-- The operation succeeds, with a result that may depend on the state. -/
def Succeeds (P : σ → Prop) (act : Action σ α) (Q : α → σ → Prop) : Prop :=
  ∀ s, P s → ∃ a, outcome act s = .ok a ∧ Q a (after act s)

/-- The operation fails as it is said, or else succeeds with a result that fits what is said. -/
def Answers (P : σ → Prop) (act : Action σ α) (r : Except UsbError β) (Q : β → α → σ → Prop)
    (E : σ → Prop) : Prop := ∀ s, P s →
  match r with
  | .ok b => ∃ a, outcome act s = .ok a ∧ Q b a (after act s)
  | .error e => outcome act s = .error e ∧ E (after act s)

section

variable {P Q R : σ → Prop}

theorem gives_pure (a : α) : Gives P (pure a) (.ok a) P := fun _ h => ⟨rfl, h⟩

theorem gives_throw (e : UsbError) : Gives P (throw e : Action σ α) (.error e) P :=
  fun _ h => ⟨rfl, h⟩

theorem gives_liftResult (r : Except UsbError α) : Gives P (liftResult r) r P := fun s h => by
  rw [outcome_liftResult, after_liftResult]
  exact ⟨rfl, h⟩

theorem Gives.imp {act : Action σ α} {r : Except UsbError α} (h : Gives P act r Q)
    (hq : ∀ s, Q s → R s) : Gives P act r R := fun s hs => ⟨(h s hs).1, hq _ (h s hs).2⟩

theorem Gives.bind {x : Action σ α} {f : α → Action σ β} {a : α} {r : Except UsbError β}
    (hx : Gives P x (.ok a) Q) (hf : Gives Q (f a) r R) : Gives P (x >>= f) r R := by
  intro s hs
  obtain ⟨ho, hq⟩ := hx s hs
  rw [outcome_bind_ok _ ho, after_bind_ok _ ho]
  exact hf _ hq

theorem Gives.bind_error {x : Action σ α} {f : α → Action σ β} {e : UsbError}
    (hx : Gives P x (.error e) Q) : Gives P (x >>= f) (.error e) Q := by
  intro s hs
  obtain ⟨ho, hq⟩ := hx s hs
  rw [outcome_bind, after_bind, ho]
  exact ⟨rfl, hq⟩

theorem Gives.map {x : Action σ α} {r : Except UsbError α} (hx : Gives P x r Q) (f : α → β) :
    Gives P (x >>= fun a => pure (f a)) (r.map f) Q := by
  intro s hs
  obtain ⟨ho, hq⟩ := hx s hs
  rw [outcome_bind_pure, after_bind_pure, ho]
  exact ⟨rfl, hq⟩

theorem Gives.attempted {act : Action σ α} {r : Except UsbError α} (h : Gives P act r Q) :
    Gives P (attempt act) (.ok r) Q := by
  intro s hs
  obtain ⟨ho, hq⟩ := h s hs
  rw [outcome_attempt, after_attempt, ho]
  exact ⟨rfl, hq⟩

theorem Gives.succeeds {act : Action σ α} {a : α} (h : Gives P act (.ok a) Q) :
    Succeeds P act fun b s => b = a ∧ Q s := fun s hs =>
  ⟨a, (h s hs).1, rfl, (h s hs).2⟩

theorem Succeeds.bind {x : Action σ α} {f : α → Action σ β} {S : α → σ → Prop}
    {r : Except UsbError β} (hx : Succeeds P x S) (hf : ∀ a, Gives (S a) (f a) r R) :
    Gives P (x >>= f) r R := by
  intro s hs
  obtain ⟨a, ho, hq⟩ := hx s hs
  rw [outcome_bind_ok _ ho, after_bind_ok _ ho]
  exact hf a _ hq

theorem Succeeds.bindSucceeds {x : Action σ α} {f : α → Action σ β} {S : α → σ → Prop}
    {T : β → σ → Prop} (hx : Succeeds P x S) (hf : ∀ a, Succeeds (S a) (f a) T) :
    Succeeds P (x >>= f) T := by
  intro s hs
  obtain ⟨a, ho, hq⟩ := hx s hs
  rw [outcome_bind_ok _ ho, after_bind_ok _ ho]
  exact hf a _ hq

theorem Succeeds.bindAnswers {γ : Type} {x : Action σ α} {f : α → Action σ β} {S : α → σ → Prop}
    {r : Except UsbError γ} {T : γ → β → σ → Prop} (hx : Succeeds P x S)
    (hf : ∀ a, Answers (S a) (f a) r T R) : Answers P (x >>= f) r T R := by
  cases r with
  | ok c => exact hx.bindSucceeds hf
  | error e => exact hx.bind hf

/-- Answers that go on with what they found. -/
theorem Answers.bind {γ δ : Type} {x : Action σ α} {f : α → Action σ β} {r : Except UsbError γ}
    {g : γ → Except UsbError δ} {S : γ → α → σ → Prop} {T : δ → β → σ → Prop}
    (hx : Answers P x r S R) (hf : ∀ c a, r = .ok c → Answers (S c a) (f a) (g c) T R) :
    Answers P (x >>= f) (r.bind g) T R := by
  cases r with
  | ok c => exact Succeeds.bindAnswers hx fun a => hf c a rfl
  | error e => exact Gives.bind_error hx

/-- What is known from the state may be used. -/
theorem answers_from {act : Action σ α} {r : Except UsbError β} {S : β → α → σ → Prop}
    (h : ∀ s, P s → Q s ∧ Answers Q act r S R) : Answers P act r S R := fun s hs =>
  (h s hs).2 s (h s hs).1

/-- Answers that go on without more failures. -/
theorem Answers.bindSucceeds {γ : Type} {x : Action σ α} {f : α → Action σ β}
    {r : Except UsbError γ} {S : γ → α → σ → Prop} {T : γ → β → σ → Prop} (hx : Answers P x r S R)
    (hf : ∀ c a, r = .ok c → Succeeds (S c a) (f a) (T c)) : Answers P (x >>= f) r T R := by
  cases r with
  | ok c => exact Succeeds.bindSucceeds hx fun a => hf c a rfl
  | error e => exact Gives.bind_error hx

theorem Answers.congr {act other : Action σ α} {r : Except UsbError β} {S : β → α → σ → Prop}
    (h : Answers P other r S R) (heq : ∀ s, P s → act s = other s) : Answers P act r S R := by
  intro s hs
  rw [outcome_congr (heq s hs), after_congr (heq s hs)]
  exact h s hs

/-- What is made of the answer is what is made of the result, if the two fit in this. -/
theorem Answers.map_outcome {γ : Type} {act : Action σ α} {r : Except UsbError β}
    {S : β → α → σ → Prop} {f : α → γ} {g : β → γ} (h : Answers P act r S R)
    (hfg : ∀ b a s, r = .ok b → S b a s → f a = g b) {s : σ} (hs : P s) :
    (outcome act s).map f = r.map g := by
  have hanswer := h s hs
  cases r with
  | error e =>
    rw [hanswer.1]
    rfl
  | ok b =>
    obtain ⟨a, ho, hab⟩ := hanswer
    rw [ho]
    exact congrArg Except.ok (hfg b a _ rfl hab)

theorem Gives.answers {act : Action σ α} {r : Except UsbError α} (h : Gives P act r Q) :
    Answers P act r (fun b a s => a = b ∧ Q s) Q := by
  cases r with
  | ok a => exact h.succeeds
  | error e => exact h

end

section

variable {P : σ → Prop} {R : α → Prop} {S : β → Prop}

theorem meets_pure {a : α} (h : R a) : Meets P (pure a) R := by
  intro s hs
  refine ⟨hs, fun b hb => ?_⟩
  cases hb
  exact h

theorem meets_throw (e : UsbError) : Meets P (throw e : Action σ α) R :=
  fun _ hs => ⟨hs, nofun⟩

theorem Meets.bind {x : Action σ α} {f : α → Action σ β} (hx : Meets P x R)
    (hf : ∀ a, R a → Meets P (f a) S) : Meets P (x >>= f) S := by
  intro s hs
  obtain ⟨hafter, hresult⟩ := hx s hs
  rw [after_bind, outcome_bind]
  cases ho : outcome x s with
  | error e => exact ⟨hafter, nofun⟩
  | ok a => exact hf a (hresult a ho) _ hafter

theorem Meets.map {x : Action σ α} {f : α → β} (hx : Meets P x R) (hf : ∀ a, R a → S (f a)) :
    Meets P (x >>= fun a => pure (f a)) S :=
  hx.bind fun a ha => meets_pure (hf a ha)

theorem Meets.attempted {x : Action σ α} (hx : Meets P x R) :
    Meets P (attempt x) fun r => ∀ a, r = .ok a → R a := by
  intro s hs
  obtain ⟨hafter, hresult⟩ := hx s hs
  rw [after_attempt, outcome_attempt]
  refine ⟨hafter, fun r hr a ha => hresult a ?_⟩
  rw [Except.ok.inj hr]
  exact ha

end

end SerialBus
