/-!
# Steps

A step works on a state and may fail. Failing does not undo anything: the state that a failed
step leaves behind is the one it had reached, so that a copy that fails halfway keeps what it
had copied, and an allocator that gave up keeps what it had freed.

* `Step.on` — a step on a part of the state.
* `Step.mapError` — the same step with its errors renamed.
* `Step.attempt` — the same step with its failure as an ordinary result.

The lemmas say what each of them does to outcome and state.
-/

namespace Offload

variable {ε ε' σ τ α β γ : Type}

/-- A computation that starts in a state, ends in a state, and has a result or an error. -/
def Step (ε σ α : Type) : Type := σ → Except ε α × σ

namespace Step

/-- Have a result and leave the state alone. -/
protected def pure (a : α) : Step ε σ α := fun s => (.ok a, s)

/-- Carry on where a step succeeded; its failure ends the whole. -/
protected def bind (m : Step ε σ α) (f : α → Step ε σ β) : Step ε σ β := fun s =>
  match m s with
  | (.ok a, s') => f a s'
  | (.error e, s') => (.error e, s')

instance : Monad (Step ε σ) where
  pure := Step.pure
  bind := Step.bind

instance : MonadStateOf σ (Step ε σ) where
  get := fun s => (.ok s, s)
  set := fun s _ => (.ok (), s)
  modifyGet := fun f s => let (a, s') := f s; (.ok a, s')

instance : MonadExceptOf ε (Step ε σ) where
  throw := fun e s => (.error e, s)
  tryCatch := fun m h s =>
    match m s with
    | (.ok a, s') => (.ok a, s')
    | (.error e, s') => h e s'

/-- The step that a pure function on states amounts to. -/
def of (f : σ → Except ε α × σ) : Step ε σ α := f

/-- A result that is there already. -/
def lift (r : Except ε α) : Step ε σ α := fun s => (r, s)

/-- A step on a part of the state: `get` takes the part out and `put` puts it back. -/
def on (get : σ → τ) (put : τ → σ → σ) (m : Step ε τ α) : Step ε σ α := fun s =>
  let (r, t) := m (get s)
  (r, put t s)

/-- The step with another error in place of each of its own. -/
def mapError (f : ε → ε') (m : Step ε σ α) : Step ε' σ α := fun s =>
  let (r, s') := m s
  (r.mapError f, s')

/-- The step with its outcome as a result. -/
def attempt (m : Step ε σ α) : Step ε' σ (Except ε α) := fun s =>
  let (r, s') := m s
  (.ok r, s')

/-- Run a step for each member of a list, from left to right, up to the first failure. -/
def each (xs : List α) (f : α → Step ε σ Unit) : Step ε σ Unit :=
  match xs with
  | [] => pure ()
  | x :: r => do f x; each r f

/-- Run a step for `n` numbers in a row, from `first` on, up to the first failure. -/
def range (f : Nat → Step ε σ Unit) : (n first : Nat) → Step ε σ Unit
  | 0, _ => pure ()
  | n + 1, first => fun s =>
    match f first s with
    | (.ok (), s') => range f n (first + 1) s'
    | (.error e, s') => (.error e, s')

/-- Run a step for each member of a list and collect the results. -/
def collect (xs : List α) (f : α → Step ε σ β) : Step ε σ (List β) :=
  match xs with
  | [] => pure []
  | x :: r => do
    let b ← f x
    let bs ← collect r f
    pure (b :: bs)

/-! ### What steps do -/

@[simp] theorem pure_apply (a : α) (s : σ) : (pure a : Step ε σ α) s = (.ok a, s) := rfl

theorem bind_apply (m : Step ε σ α) (f : α → Step ε σ β) (s : σ) :
    (m >>= f) s = match m s with
      | (.ok a, s') => f a s'
      | (.error e, s') => (.error e, s') := rfl

@[simp] theorem get_apply (s : σ) : (get : Step ε σ σ) s = (.ok s, s) := rfl

@[simp] theorem set_apply (s t : σ) : (set t : Step ε σ PUnit) s = (.ok (), t) := rfl

@[simp] theorem modify_apply (f : σ → σ) (s : σ) :
    (modify f : Step ε σ PUnit) s = (.ok (), f s) := rfl

@[simp] theorem throw_apply (e : ε) (s : σ) : (throw e : Step ε σ α) s = (.error e, s) := rfl

@[simp] theorem lift_apply (r : Except ε α) (s : σ) : (lift r : Step ε σ α) s = (r, s) := rfl

@[simp] theorem on_apply (get : σ → τ) (put : τ → σ → σ) (m : Step ε τ α) (s : σ) :
    m.on get put s = ((m (get s)).1, put (m (get s)).2 s) := rfl

@[simp] theorem mapError_apply (f : ε → ε') (m : Step ε σ α) (s : σ) :
    m.mapError f s = ((m s).1.mapError f, (m s).2) := rfl

@[simp] theorem attempt_apply (m : Step ε σ α) (s : σ) :
    (m.attempt : Step ε' σ _) s = (.ok (m s).1, (m s).2) := rfl

/-- A step that succeeds hands its result and state on. -/
theorem bind_of_ok {m : Step ε σ α} {f : α → Step ε σ β} {s s' : σ} {a : α}
    (h : m s = (.ok a, s')) : (m >>= f) s = f a s' := by
  rw [bind_apply, h]

/-- A step that fails ends what follows it. -/
theorem bind_of_error {m : Step ε σ α} {f : α → Step ε σ β} {s s' : σ} {e : ε}
    (h : m s = (.error e, s')) : (m >>= f) s = (.error e, s') := by
  rw [bind_apply, h]

/-- Where two steps in a row succeed, both have succeeded. -/
theorem bind_eq_ok {m : Step ε σ α} {f : α → Step ε σ β} {s t : σ} {b : β}
    (h : (m >>= f) s = (.ok b, t)) : ∃ a s', m s = (.ok a, s') ∧ f a s' = (.ok b, t) := by
  rw [bind_apply] at h
  split at h
  · rename_i a s' hm
    exact ⟨a, s', hm, h⟩
  · simp at h

instance : LawfulMonad (Step ε σ) :=
  LawfulMonad.mk' (Step ε σ)
    (fun m => by
      funext s
      show Step.bind m (fun a => Step.pure a) s = m s
      simp only [Step.bind, Step.pure]
      split <;> simp [*])
    (fun _ _ => rfl)
    (fun m f g => by
      funext s
      show Step.bind (Step.bind m f) g s = Step.bind m (fun a => Step.bind (f a) g) s
      simp only [Step.bind]
      rcases m s with ⟨_ | _, s'⟩ <;> rfl)

end Step

end Offload
