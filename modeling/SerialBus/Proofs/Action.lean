import SerialBus.Device.Basic

/-! Operations by what they leave behind: the result and the state, whether they fail or not. A
property of a whole operation is put together from those of its parts. -/
namespace SerialBus.Action

variable {σ α β : Type}

/-- The state that an operation leaves, also when it fails. -/
def after (act : Action σ α) (s : σ) : σ :=
  match act s with
  | .ok _ t => t
  | .error _ t => t

def outcome (act : Action σ α) (s : σ) : Except UsbError α :=
  match act s with
  | .ok a _ => .ok a
  | .error e _ => .error e

theorem eq_ok_iff {act : Action σ α} {s t : σ} {a : α} :
    act s = .ok a t ↔ outcome act s = .ok a ∧ after act s = t := by
  unfold outcome after
  cases act s <;> simp

theorem eq_error_iff {act : Action σ α} {s t : σ} {e : UsbError} :
    act s = .error e t ↔ outcome act s = .error e ∧ after act s = t := by
  unfold outcome after
  cases act s <;> simp

theorem bind_eq_of_ok {x : Action σ α} {s t : σ} {a : α} (f : α → Action σ β) (h : x s = .ok a t) :
    (x >>= f) s = f a t := by
  simp only [bind, EStateM.bind, h]

theorem bind_eq_of_error {x : Action σ α} {s t : σ} {e : UsbError} (f : α → Action σ β)
    (h : x s = .error e t) : (x >>= f) s = .error e t := by
  simp only [bind, EStateM.bind, h]

theorem after_congr {act other : Action σ α} {s t : σ} (h : act s = other t) :
    after act s = after other t := by
  unfold after
  rw [h]

theorem outcome_congr {act other : Action σ α} {s t : σ} (h : act s = other t) :
    outcome act s = outcome other t := by
  unfold outcome
  rw [h]

@[simp] theorem after_pure (a : α) (s : σ) : after (pure a) s = s := rfl

@[simp] theorem outcome_pure (a : α) (s : σ) : outcome (pure a) s = .ok a := rfl

@[simp] theorem after_throw (e : UsbError) (s : σ) : after (throw e : Action σ α) s = s := rfl

@[simp] theorem outcome_throw (e : UsbError) (s : σ) :
    outcome (throw e : Action σ α) s = .error e := rfl

@[simp] theorem after_get (s : σ) : after (get : Action σ σ) s = s := rfl

@[simp] theorem outcome_get (s : σ) : outcome (get : Action σ σ) s = .ok s := rfl

@[simp] theorem after_modify (f : σ → σ) (s : σ) : after (modify f : Action σ PUnit) s = f s := rfl

@[simp] theorem outcome_modify (f : σ → σ) (s : σ) :
    outcome (modify f : Action σ PUnit) s = .ok () := rfl

theorem after_bind (x : Action σ α) (f : α → Action σ β) (s : σ) :
    after (x >>= f) s =
      match outcome x s with
      | .ok a => after (f a) (after x s)
      | .error _ => after x s := by
  simp only [after, outcome, bind, EStateM.bind]
  cases x s <;> rfl

theorem outcome_bind (x : Action σ α) (f : α → Action σ β) (s : σ) :
    outcome (x >>= f) s =
      match outcome x s with
      | .ok a => outcome (f a) (after x s)
      | .error e => .error e := by
  simp only [after, outcome, bind, EStateM.bind]
  cases x s <;> rfl

theorem outcome_bind_eq_ok {x : Action σ α} {f : α → Action σ β} {s : σ} {b : β} :
    outcome (x >>= f) s = .ok b ↔
      ∃ a, outcome x s = .ok a ∧ outcome (f a) (after x s) = .ok b := by
  rw [outcome_bind]
  cases outcome x s <;> simp

theorem after_bind_ok {x : Action σ α} {s : σ} {a : α} (f : α → Action σ β)
    (h : outcome x s = .ok a) : after (x >>= f) s = after (f a) (after x s) := by
  rw [after_bind, h]

theorem outcome_bind_ok {x : Action σ α} {s : σ} {a : α} (f : α → Action σ β)
    (h : outcome x s = .ok a) : outcome (x >>= f) s = outcome (f a) (after x s) := by
  rw [outcome_bind, h]

@[simp] theorem after_map (f : α → β) (act : Action σ α) (s : σ) :
    after (f <$> act) s = after act s := by
  simp only [after, Functor.map, EStateM.map]
  cases act s <;> rfl

@[simp] theorem outcome_map (f : α → β) (act : Action σ α) (s : σ) :
    outcome (f <$> act) s = (outcome act s).map f := by
  simp only [outcome, Functor.map, EStateM.map]
  cases act s <;> rfl

theorem after_bind_pure (act : Action σ α) (f : α → β) (s : σ) :
    after (act >>= fun a => pure (f a)) s = after act s := by
  rw [bind_pure_comp, after_map]

theorem outcome_bind_pure (act : Action σ α) (f : α → β) (s : σ) :
    outcome (act >>= fun a => pure (f a)) s = (outcome act s).map f := by
  rw [bind_pure_comp, outcome_map]

@[simp] theorem after_attempt (act : Action σ α) (s : σ) : after (attempt act) s = after act s := by
  simp only [after, attempt]
  cases act s <;> rfl

@[simp] theorem outcome_attempt (act : Action σ α) (s : σ) :
    outcome (attempt act) s = .ok (outcome act s) := by
  simp only [outcome, attempt]
  cases act s <;> rfl

@[simp] theorem after_liftResult (r : Except UsbError α) (s : σ) : after (liftResult r) s = s := by
  cases r <;> rfl

@[simp] theorem outcome_liftResult (r : Except UsbError α) (s : σ) :
    outcome (liftResult r) s = r := by
  cases r <;> rfl

/-- What is made of the result of an operation changes nothing. -/
theorem after_bind_liftResult (x : Action σ α) (f : α → Except UsbError β) (s : σ) :
    after (x >>= fun r => liftResult (f r)) s = after x s := by
  rw [after_bind]
  cases outcome x s with
  | error e => rfl
  | ok r => exact after_liftResult _ _

@[simp] theorem after_onBus (act : Action σ α) (a : Attachment σ) :
    after (onBus act) a = { a with bus := after act a.bus } := by
  simp only [after, onBus]
  cases act a.bus <;> rfl

@[simp] theorem outcome_onBus (act : Action σ α) (a : Attachment σ) :
    outcome (onBus act) a = outcome act a.bus := by
  simp only [outcome, onBus]
  cases act a.bus <;> rfl

@[simp] theorem after_getHeld (a : Attachment σ) : after getHeld a = a := rfl

@[simp] theorem outcome_getHeld (a : Attachment σ) : outcome getHeld a = .ok a.device.held := rfl

@[simp] theorem after_getDevice (a : Attachment σ) : after getDevice a = a := rfl

@[simp] theorem outcome_getDevice (a : Attachment σ) : outcome getDevice a = .ok a.device := rfl

theorem getHeld_bind (f : Holdings → DeviceAction σ α) (a : Attachment σ) :
    (getHeld >>= f) a = f a.device.held a := rfl

theorem getDevice_bind (f : Device → DeviceAction σ α) (a : Attachment σ) :
    (getDevice >>= f) a = f a.device a := rfl

@[simp] theorem after_modifyDevice (f : Device → Device) (a : Attachment σ) :
    after (modifyDevice f) a = { a with device := f a.device } := rfl

@[simp] theorem outcome_modifyDevice (f : Device → Device) (a : Attachment σ) :
    outcome (modifyDevice f) a = .ok () := rfl

@[simp] theorem after_modifyHeld (f : Holdings → Holdings) (a : Attachment σ) :
    after (modifyHeld f) a = { a with device := { a.device with held := f a.device.held } } := rfl

@[simp] theorem outcome_modifyHeld (f : Holdings → Holdings) (a : Attachment σ) :
    outcome (modifyHeld f) a = .ok () := rfl

end SerialBus.Action
