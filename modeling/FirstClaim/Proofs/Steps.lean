/-!
# Steps that may fail

Steps work on a state and may fail. What they have done to the state stays done if a later step
fails (`Steps.exec_bind`), so that a failure leaves nothing behind only where no step has changed
anything before it.
-/

set_option autoImplicit false

namespace FirstClaim

/-- Steps on a state. What they have done stays done if a later one fails. -/
abbrev Steps (ε σ : Type) := ExceptT ε (StateM σ)

namespace Steps

variable {ε σ α β : Type}

/-- What steps give, and the state behind them. -/
def exec (x : Steps ε σ α) (s : σ) : Except ε α × σ :=
  x.run.run s

/-- Gives what an operation finds in the state. -/
def look (f : σ → Except ε α) : Steps ε σ α := do
  match f (← get) with
  | .ok a => pure a
  | .error e => throw e

/-- Changes the state at one go. -/
def change (f : σ → Except ε σ) : Steps ε σ Unit := do
  match f (← get) with
  | .ok s => set s
  | .error e => throw e

theorem exec_bind (x : Steps ε σ α) (f : α → Steps ε σ β) (s : σ) :
    exec (x >>= f) s = match exec x s with
      | (.ok a, s') => exec (f a) s'
      | (.error e, s') => (.error e, s') := by
  have hbind : exec (x >>= f) s = match exec x s with
      | (r, s') => ExceptT.bindCont f r s' := rfl
  rw [hbind]
  cases exec x s with
  | mk r s' => cases r <;> rfl

theorem exec_get (s : σ) : exec (get : Steps ε σ σ) s = (.ok s, s) :=
  rfl

theorem exec_look (f : σ → Except ε α) (s : σ) : exec (look f) s = (f s, s) := by
  unfold look
  rw [exec_bind, exec_get]
  dsimp only
  cases f s <;> rfl

/-- Behind a change the state is the new one, unless the change fails. -/
theorem exec_change (f : σ → Except ε σ) (s : σ) :
    exec (change f) s = match f s with
      | .ok s' => (.ok (), s')
      | .error e => (.error e, s) := by
  unfold change
  rw [exec_bind, exec_get]
  dsimp only
  cases f s <;> rfl

theorem exec_look_bind (f : σ → Except ε α) (g : α → Steps ε σ β) (s : σ) :
    exec (look f >>= g) s = match f s with
      | .ok a => exec (g a) s
      | .error e => (.error e, s) := by
  rw [exec_bind, exec_look]
  cases f s <;> rfl

theorem exec_change_bind (f : σ → Except ε σ) (g : Unit → Steps ε σ β) (s : σ) :
    exec (change f >>= g) s = match f s with
      | .ok s' => exec (g ()) s'
      | .error e => (.error e, s) := by
  rw [exec_bind, exec_change]
  cases f s <;> rfl

end Steps

end FirstClaim
