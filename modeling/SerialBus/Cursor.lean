import SerialBus.Backend.Basic

/-!
Sequences that are read one item at a time from a state. An item may be a failure, and what follows
it can still be read.
-/

namespace SerialBus

/-- A way to read items of type `α` from positions of type `ρ`, at most `bound p` from `p`. -/
structure Cursor (σ ρ α : Type) where
  next : ρ → Action σ (Option (Except UsbError α × ρ))
  bound : ρ → Nat

namespace Cursor

variable {σ ρ α β : Type}

/-- What `f` makes of each of the first `fuel` items, before the next one is read. -/
def forEachUpTo (c : Cursor σ ρ α) (f : Except UsbError α → Action σ β) :
    Nat → ρ → Action σ (List β)
  | 0, _ => return []
  | fuel + 1, p => do
    match ← c.next p with
    | none => return []
    | some (item, p) =>
      let b ← f item
      return b :: (← forEachUpTo c f fuel p)

/-- The first of `fuel` items with the property; a failed item in front of it is raised. -/
def findUpTo (c : Cursor σ ρ α) (test : α → Bool) : Nat → ρ → Action σ (Option α)
  | 0, _ => return none
  | fuel + 1, p => do
    match ← c.next p with
    | none => return none
    | some (.error e, _) => throw e
    | some (.ok a, p) => if test a then return some a else findUpTo c test fuel p

/-- The members of `fuel` items with the property; the first failed item is raised. -/
def filterUpTo (c : Cursor σ ρ α) (test : α → Bool) : Nat → ρ → Action σ (List α)
  | 0, _ => return []
  | fuel + 1, p => do
    match ← c.next p with
    | none => return []
    | some (.error e, _) => throw e
    | some (.ok a, p) =>
      let rest ← filterUpTo c test fuel p
      return if test a then a :: rest else rest

def forEach (c : Cursor σ ρ α) (f : Except UsbError α → Action σ β) (p : ρ) : Action σ (List β) :=
  c.forEachUpTo f (c.bound p) p

/-- All items, failures included. -/
def items (c : Cursor σ ρ α) (p : ρ) : Action σ (List (Except UsbError α)) :=
  c.forEach (fun item => pure item) p

def find (c : Cursor σ ρ α) (test : α → Bool) (p : ρ) : Action σ (Option α) :=
  c.findUpTo test (c.bound p) p

def filter (c : Cursor σ ρ α) (test : α → Bool) (p : ρ) : Action σ (List α) :=
  c.filterUpTo test (c.bound p) p

/-- The items that `load` gives for the positions below `count`. -/
def ofIndex (count : Nat) (load : Nat → Action σ α) : Cursor σ Nat α where
  next i := do
    if i < count then return some (← attempt (load i), i + 1)
    return none
  bound i := count - i

end Cursor

end SerialBus
