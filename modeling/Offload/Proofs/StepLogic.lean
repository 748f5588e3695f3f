import Mathlib.Data.List.Forall2
import Offload.Step

/-!
# Reasoning about steps

What is known of a list that was turned into another one, and five kinds of statements about steps
that are proved along the way in which a step is put together.

* `Step.Follows` — wherever a step starts, it ends in a state that some relation allows.
* `Step.Throws` — wherever a step starts, it fails with errors of one sort only.
* `Step.Ends` — a step that succeeds ends as it should, and one that fails has a reason.
* `Step.Matches` — two steps that start in related states both succeed or both fail, and end in
  related states with related results or errors.
* `Step.Concur` — the same of two steps either of which something from outside may break off.
-/

namespace Offload

/-! ### Lists of results -/

section

variable {α β ε : Type} {f : α → Except ε β} {xs : List α} {ys : List β}

/-- What a list is turned into depends on its members. -/
theorem mapM_congr {g : α → Except ε β} (h : ∀ x ∈ xs, f x = g x) : xs.mapM f = xs.mapM g := by
  induction xs with
  | nil => rfl
  | cons x r ih =>
    rw [List.mapM_cons, List.mapM_cons, h x List.mem_cons_self,
      ih fun y hy => h y (List.mem_cons_of_mem _ hy)]

/-- A list is turned into another one member by member. -/
theorem mapM_eq_ok_iff :
    xs.mapM f = .ok ys ↔ List.Forall₂ (fun x y => f x = .ok y) xs ys := by
  induction xs generalizing ys with
  | nil =>
    rw [List.forall₂_nil_left_iff]
    exact ⟨fun h => (Except.ok.inj h).symm, fun h => h ▸ rfl⟩
  | cons x r ih =>
    rw [List.mapM_cons, List.forall₂_cons_left_iff]
    rcases hx : f x with e | y
    · exact ⟨nofun, fun ⟨_, _, h, _⟩ => nomatch h⟩
    · rcases hr : r.mapM f with e | zs
      · refine ⟨nofun, ?_⟩
        rintro ⟨_, zs, -, hzs, -⟩
        rw [ih.mpr hzs] at hr
        cases hr
      · constructor
        · rintro ⟨⟩
          exact ⟨y, zs, rfl, ih.mp hr, rfl⟩
        · rintro ⟨_, zs', ⟨⟩, hzs, rfl⟩
          obtain rfl : zs = zs' := Except.ok.inj (hr.symm.trans (ih.mpr hzs))
          rfl

/-- Where a list was turned into another one, this was done index by index. -/
theorem mapM_inv (h : xs.mapM f = .ok ys) : ys.length = xs.length ∧
    ∀ (i : Nat) x, xs[i]? = some x → ∃ y, ys[i]? = some y ∧ f x = .ok y := by
  obtain ⟨hlen, hmembers⟩ := List.forall₂_iff_get.mp (mapM_eq_ok_iff.mp h)
  refine ⟨hlen.symm, fun i x hx => ?_⟩
  obtain ⟨hi, rfl⟩ := List.getElem?_eq_some_iff.mp hx
  have hi' : i < ys.length := hlen ▸ hi
  exact ⟨ys[i], List.getElem?_eq_getElem hi', hmembers i hi hi'⟩

/-- Where a list cannot be turned into another one, one of its members cannot. -/
theorem exists_of_mapM_error {e : ε} (h : xs.mapM f = .error e) : ∃ x ∈ xs, f x = .error e := by
  induction xs with
  | nil => cases h
  | cons x r ih =>
    rw [List.mapM_cons] at h
    rcases hx : f x with e' | y <;> rw [hx] at h
    · cases h
      exact ⟨x, List.mem_cons_self, hx⟩
    · rcases hr : r.mapM f with e' | ys <;> rw [hr] at h
      · cases h
        obtain ⟨x', hx', he⟩ := ih hr
        exact ⟨x', List.mem_cons_of_mem _ hx', he⟩
      · cases h

/-- The two lists have the same indices. -/
theorem getElem?_mapM_cases (h : xs.mapM f = .ok ys) (i : Nat) :
    (∃ x y, xs[i]? = some x ∧ ys[i]? = some y ∧ f x = .ok y) ∨ xs[i]? = none ∧ ys[i]? = none := by
  obtain ⟨hlen, hmembers⟩ := mapM_inv h
  rcases hx : xs[i]? with _ | x
  · exact .inr ⟨rfl, List.getElem?_eq_none (hlen ▸ List.getElem?_eq_none_iff.mp hx)⟩
  · obtain ⟨y, hy, hxy⟩ := hmembers i x hx
    exact .inl ⟨x, y, rfl, hy, hxy⟩

/-- Where a member comes from. -/
theorem getElem?_of_mapM (h : xs.mapM f = .ok ys) {i : Nat} {y : β} (hy : ys[i]? = some y) :
    ∃ x, xs[i]? = some x ∧ f x = .ok y := by
  rcases getElem?_mapM_cases h i with ⟨x, y', hx, hy', hxy⟩ | ⟨-, hnone⟩
  · obtain rfl : y' = y := Option.some.inj (hy'.symm.trans hy)
    exact ⟨x, hx, hxy⟩
  · rw [hnone] at hy
    cases hy

end

end Offload

namespace Offload.Step

variable {ε ε' ε₁ ε₁' σ τ σ₁ τ₁ α β γ γ' : Type}

/-- A result that is turned into another one leaves everything else as it is. -/
theorem map_apply (f : α → β) (m : Step ε σ α) (s : σ) :
    (f <$> m) s = ((m s).1.map f, (m s).2) := by
  show (m >>= fun a => pure (f a)) s = _
  rw [bind_apply]
  rcases m s with ⟨e | a, s'⟩ <;> rfl

/-- A result that is replaced leaves everything else as it is. -/
theorem bind_pure_apply (m : Step ε σ α) (b : β) (s : σ) :
    (m >>= fun _ => (pure b : Step ε σ β)) s = ((m s).1.map fun _ => b, (m s).2) := by
  rw [bind_apply]
  rcases m s with ⟨e | a, s'⟩ <;> rfl

/-- A result that is replaced changes nothing about the state. -/
theorem snd_bind_pure (m : Step ε σ α) (b : β) (s : σ) :
    ((m >>= fun _ => (pure b : Step ε σ β)) s).2 = (m s).2 := by
  rw [bind_pure_apply]

/-- A step for each member of two lists is one for each member of the first list and then one for
each member of the second one. -/
theorem each_append (xs ys : List γ) (f : γ → Step ε σ Unit) :
    each (xs ++ ys) f = each xs f >>= fun _ => each ys f := by
  induction xs with
  | nil => rfl
  | cons x r ih =>
    show (f x >>= fun _ => each (r ++ ys) f) = (f x >>= fun _ => each r f) >>= fun _ => each ys f
    rw [ih, bind_assoc]

/-- A step for each member of a list failed at one of them, after it had succeeded for all members
before that one. -/
theorem each_error {xs : List γ} {f : γ → Step ε σ Unit} {s s' : σ} {e : ε}
    (h : each xs f s = (.error e, s')) : ∃ k x t, xs[k]? = some x ∧
      each (xs.take k) f s = (.ok (), t) ∧ f x t = (.error e, s') := by
  induction xs generalizing s with
  | nil => cases h
  | cons x r ih =>
    rcases hx : f x s with ⟨e' | u, t⟩
    · rw [each, bind_of_error hx] at h
      exact ⟨0, x, s, rfl, rfl, hx.trans h⟩
    · rw [each, bind_of_ok hx] at h
      obtain ⟨k, y, t', hy, hbefore, hfails⟩ := ih h
      exact ⟨k + 1, y, t', hy, (bind_of_ok hx).trans hbefore, hfails⟩

/-! ### One step -/

/-- Wherever the step starts, `K` leads from there to where it ends. -/
def Follows (K : σ → σ → Prop) (m : Step ε σ α) : Prop := ∀ s, K s (m s).2

namespace Follows

variable {K : σ → σ → Prop}

theorem pure (hK : ∀ s, K s s) (a : α) : Follows K (pure a : Step ε σ α) := fun s => hK s

/-- Two steps in a row, the second of which may make use of what the first one did. -/
theorem bind_of {m : Step ε σ α} {f : α → Step ε σ β} (hK : ∀ s s' s'', K s s' → K s' s'' → K s s'')
    (hm : Follows K m) (hf : ∀ s a s', m s = (.ok a, s') → K s' (f a s').2) :
    Follows K (m >>= f) := by
  intro s
  have hs := hm s
  rw [bind_apply]
  split <;> rename_i h <;> rw [h] at hs
  · exact hK _ _ _ hs (hf _ _ _ h)
  · exact hs

/-- Two steps in a row. -/
theorem bind {m : Step ε σ α} {f : α → Step ε σ β} (hK : ∀ s s' s'', K s s' → K s' s'' → K s s'')
    (hm : Follows K m) (hf : ∀ a, Follows K (f a)) : Follows K (m >>= f) :=
  bind_of hK hm fun _ a s' _ => hf a s'

/-- Either of two steps. -/
theorem ite {c : Prop} [Decidable c] {m n : Step ε σ α} (hm : Follows K m) (hn : Follows K n) :
    Follows K (if c then m else n) := by
  split
  · exact hm
  · exact hn

/-- What follows a look at the state. -/
theorem get_bind {f : σ → Step ε σ α} (h : ∀ s, K s (f s s).2) :
    Follows K ((get : Step ε σ σ) >>= f) := h

theorem mapError {m : Step ε σ α} (h : Follows K m) (f : ε → ε') : Follows K (m.mapError f) := h

/-- The same step for each member of a list. -/
theorem each {xs : List γ} {f : γ → Step ε σ Unit} (hr : ∀ s, K s s)
    (hK : ∀ s s' s'', K s s' → K s' s'' → K s s'') (hf : ∀ x ∈ xs, Follows K (f x)) :
    Follows K (each xs f) := by
  induction xs with
  | nil => exact pure hr ()
  | cons x r ih =>
    exact bind hK (hf x List.mem_cons_self) fun _ =>
      ih fun y hy => hf y (List.mem_cons_of_mem _ hy)

end Follows

/-! ### Errors -/

/-- Wherever the step starts, it fails with errors for which `E` holds only. -/
def Throws (E : ε → Prop) (m : Step ε σ α) : Prop := ∀ s e s', m s = (.error e, s') → E e

namespace Throws

variable {E : ε → Prop}

theorem pure (a : α) : Throws E (pure a : Step ε σ α) := nofun

/-- Two steps in a row. -/
theorem bind {m : Step ε σ α} {f : α → Step ε σ β} (hm : Throws E m) (hf : ∀ a, Throws E (f a)) :
    Throws E (m >>= f) := by
  intro s e s' h
  rcases hs : m s with ⟨e' | a, t⟩
  · rw [bind_of_error hs] at h
    cases h
    exact hm s e s' hs
  · rw [bind_of_ok hs] at h
    exact hf a t e s' h

/-- What follows a look at the state. -/
theorem get_bind {f : σ → Step ε σ α} (h : ∀ s, Throws E (f s)) :
    Throws E ((get : Step ε σ σ) >>= f) := fun s => h s s

/-- Either of two steps. -/
theorem ite {c : Prop} [Decidable c] {m n : Step ε σ α} (hm : Throws E m) (hn : Throws E n) :
    Throws E (if c then m else n) := by
  split
  · exact hm
  · exact hn

/-- The same step for each member of a list. -/
theorem each {xs : List γ} {f : γ → Step ε σ Unit} (hf : ∀ x, Throws E (f x)) :
    Throws E (each xs f) := by
  induction xs with
  | nil => exact pure ()
  | cons x r ih => exact (hf x).bind fun _ => ih

/-- A step whose errors are renamed. -/
theorem mapError {m : Step ε' σ α} {f : ε' → ε} (h : ∀ e, E (f e)) : Throws E (m.mapError f) := by
  intro s e s' he
  rw [mapError_apply] at he
  rcases hm : m s with ⟨e' | a, t⟩ <;> rw [hm] at he <;> cases he
  exact h e'

end Throws

/-! ### Results and errors -/

/-- An outcome with the state that goes with it: a result for which `Q` holds, or an error for
which `E` holds. -/
inductive Ends (Q : α → σ → Prop) (E : ε → Prop) : Except ε α × σ → Prop
  /-- a result -/
  | ok {a : α} {s : σ} (h : Q a s) : Ends Q E (.ok a, s)
  /-- an error -/
  | error {e : ε} {s : σ} (h : E e) : Ends Q E (.error e, s)

namespace Ends

variable {Q : α → σ → Prop} {E : ε → Prop} {s : σ}

theorem mono {x : Except ε α × σ} {Q' : α → σ → Prop} {E' : ε → Prop} (h : Ends Q E x)
    (hQ : ∀ a s, Q a s → Q' a s) (hE : ∀ e, E e → E' e) : Ends Q' E' x := by
  cases h with
  | ok h => exact .ok (hQ _ _ h)
  | error h => exact .error (hE _ h)

/-- Two steps in a row, the second of which starts where the first one ended. -/
theorem bind {m : Step ε σ α} {f : α → Step ε σ β} {Q' : β → σ → Prop} (hm : Ends Q E (m s))
    (hf : ∀ a s', Q a s' → Ends Q' E (f a s')) : Ends Q' E ((m >>= f) s) := by
  rw [bind_apply]
  rcases hx : m s with ⟨e | a, s'⟩ <;> rw [hx] at hm
  · cases hm with
    | error h => exact .error h
  · cases hm with
    | ok h => exact hf a s' h

/-- What holds of a result. -/
theorem of_ok {a : α} (h : Ends Q E (.ok a, s)) : Q a s := by
  cases h with
  | ok h => exact h

/-- The reason of a failure. -/
theorem of_error {x : Except ε α × σ} {e : ε} (h : Ends Q E x) (he : x.1 = .error e) : E e := by
  cases h with
  | ok h => cases he
  | error h =>
    cases he
    exact h

/-- Without a reason to fail, a step succeeds. -/
theorem exists_ok {x : Except ε α × σ} (h : Ends Q (fun _ => False) x) :
    ∃ a s, x = (.ok a, s) ∧ Q a s := by
  cases h with
  | ok h => exact ⟨_, _, rfl, h⟩
  | error h => exact h.elim

end Ends

/-! ### Two steps -/

/-- Two outcomes with the states that go with them: both are results, or both are errors. -/
inductive Matches (Q : α → β → σ → τ → Prop) (E : ε → ε' → σ → τ → Prop) :
    Except ε α × σ → Except ε' β × τ → Prop
  /-- two results -/
  | ok {a : α} {b : β} {s : σ} {t : τ} (h : Q a b s t) : Matches Q E (.ok a, s) (.ok b, t)
  /-- two errors -/
  | error {e : ε} {e' : ε'} {s : σ} {t : τ} (h : E e e' s t) :
    Matches Q E (.error e, s) (.error e', t)

namespace Matches

variable {Q : α → β → σ → τ → Prop} {E : ε → ε' → σ → τ → Prop} {s : σ} {t : τ}

theorem mono {x : Except ε α × σ} {y : Except ε' β × τ} {Q' : α → β → σ → τ → Prop}
    {E' : ε → ε' → σ → τ → Prop} (h : Matches Q E x y) (hQ : ∀ a b s t, Q a b s t → Q' a b s t)
    (hE : ∀ e e' s t, E e e' s t → E' e e' s t) : Matches Q' E' x y := by
  cases h with
  | ok h => exact .ok (hQ _ _ _ _ h)
  | error h => exact .error (hE _ _ _ _ h)

/-- Two steps in a row on either side. -/
theorem bind {m : Step ε σ α} {n : Step ε' τ β} {f : α → Step ε σ γ} {g : β → Step ε' τ γ'}
    {Q' : γ → γ' → σ → τ → Prop} (h : Matches Q E (m s) (n t))
    (hf : ∀ a b s' t', m s = (.ok a, s') → n t = (.ok b, t') → Q a b s' t' →
      Matches Q' E (f a s') (g b t')) :
    Matches Q' E ((m >>= f) s) ((n >>= g) t) := by
  rw [bind_apply, bind_apply]
  rcases hm : m s with ⟨r, s'⟩
  rcases hn : n t with ⟨r', t'⟩
  rw [hm, hn] at h
  cases h with
  | ok h => exact hf _ _ _ _ hm hn h
  | error h => exact .error h

/-- The result on the one side may be changed afterwards. -/
theorem bind_pure_right {x : Except ε α × σ} {n : Step ε' τ β} {R : σ → τ → Prop} (f : β → γ)
    (h : Matches (fun _ _ s t => R s t) E x (n t)) :
    Matches (fun _ _ s t => R s t) E x ((n >>= fun b => pure (f b)) t) := by
  rw [bind_apply]
  rcases hn : n t with ⟨r', t'⟩
  rw [hn] at h
  cases h with
  | ok h => exact .ok h
  | error h => exact .error h

/-- Errors may be renamed. -/
theorem mapError {m : Step ε σ α} {n : Step ε' τ β} {k : ε → ε₁} {k' : ε' → ε₁'}
    {E' : ε₁ → ε₁' → σ → τ → Prop} (h : Matches Q E (m s) (n t))
    (hE : ∀ e e' s t, E e e' s t → E' (k e) (k' e') s t) :
    Matches Q E' (m.mapError k s) (n.mapError k' t) := by
  rw [mapError_apply, mapError_apply]
  rcases hm : m s with ⟨r, s'⟩
  rcases hn : n t with ⟨r', t'⟩
  rw [hm, hn] at h
  cases h with
  | ok h => exact .ok h
  | error h => exact .error (hE _ _ _ _ h)

/-- Steps on a part of the state. -/
theorem on (get : σ₁ → σ) (get' : τ₁ → τ) {m : Step ε σ α} {n : Step ε' τ β}
    {put : σ → σ₁ → σ₁} {put' : τ → τ₁ → τ₁} {s : σ₁} {t : τ₁} {Q' : α → β → σ₁ → τ₁ → Prop}
    {E' : ε → ε' → σ₁ → τ₁ → Prop} (h : Matches Q E (m (get s)) (n (get' t)))
    (hQ : ∀ a b s' t', Q a b s' t' → Q' a b (put s' s) (put' t' t))
    (hE : ∀ e e' s' t', E e e' s' t' → E' e e' (put s' s) (put' t' t)) :
    Matches Q' E' (m.on get put s) (n.on get' put' t) := by
  rw [on_apply, on_apply]
  rcases hm : m (get s) with ⟨r, s'⟩
  rcases hn : n (get' t) with ⟨r', t'⟩
  rw [hm, hn] at h
  cases h with
  | ok h => exact .ok (hQ _ _ _ _ h)
  | error h => exact .error (hE _ _ _ _ h)

end Matches

/-! ### Two steps that may be broken off -/

/-- The step failed, and `B` says that this came from outside. -/
def Broken (B : ε → σ → Prop) (x : Except ε α × σ) : Prop := ∃ e, x.1 = .error e ∧ B e x.2

/-- What breaks off a step breaks off all that was to follow. -/
theorem Broken.bind {B : ε → σ → Prop} {m : Step ε σ α} {f : α → Step ε σ β} {s : σ}
    (h : Broken B (m s)) : Broken B ((m >>= f) s) := by
  obtain ⟨e, he, hB⟩ := h
  rcases hm : m s with ⟨r, s'⟩
  rw [hm] at he hB
  obtain rfl : r = .error e := he
  rw [bind_of_error hm]
  exact ⟨e, rfl, hB⟩

/-- Unless one of the two was broken off, both are results, or both are errors. -/
def Concur (B : ε → σ → Prop) (B' : ε' → τ → Prop) (Q : α → β → σ → τ → Prop)
    (E : ε → ε' → σ → τ → Prop) (x : Except ε α × σ) (y : Except ε' β × τ) : Prop :=
  Broken B x ∨ Broken B' y ∨ Matches Q E x y

namespace Concur

variable {B : ε → σ → Prop} {B' : ε' → τ → Prop} {Q : α → β → σ → τ → Prop}
  {E : ε → ε' → σ → τ → Prop} {s : σ} {t : τ}

/-- Two results. -/
theorem ok {a : α} {b : β} (h : Q a b s t) : Concur B B' Q E (.ok a, s) (.ok b, t) :=
  .inr (.inr (.ok h))

/-- Two errors. -/
theorem error {e : ε} {e' : ε'} (h : E e e' s t) : Concur B B' Q E (.error e, s) (.error e', t) :=
  .inr (.inr (.error h))

theorem mono {x : Except ε α × σ} {y : Except ε' β × τ} {Q' : α → β → σ → τ → Prop}
    (h : Concur B B' Q E x y) (hQ : ∀ a b s t, Q a b s t → Q' a b s t) :
    Concur B B' Q' E x y := by
  rcases h with h | h | h
  · exact .inl h
  · exact .inr (.inl h)
  · exact .inr (.inr (h.mono hQ fun _ _ _ _ h => h))

/-- Two steps in a row on either side. -/
theorem bind {m : Step ε σ α} {n : Step ε' τ β} {f : α → Step ε σ γ} {g : β → Step ε' τ γ'}
    {Q' : γ → γ' → σ → τ → Prop} (h : Concur B B' Q E (m s) (n t))
    (hf : ∀ a b s' t', m s = (.ok a, s') → n t = (.ok b, t') → Q a b s' t' →
      Concur B B' Q' E (f a s') (g b t')) :
    Concur B B' Q' E ((m >>= f) s) ((n >>= g) t) := by
  rcases h with h | h | h
  · exact .inl h.bind
  · exact .inr (.inl h.bind)
  · rw [bind_apply, bind_apply]
    rcases hm : m s with ⟨r, s'⟩
    rcases hn : n t with ⟨r', t'⟩
    rw [hm, hn] at h
    cases h with
    | ok h => exact hf _ _ _ _ hm hn h
    | error h => exact error h

/-- Steps on a part of the state whose errors are renamed. -/
theorem on_mapError (get : σ₁ → σ) (get' : τ₁ → τ) {m : Step ε σ α} {n : Step ε' τ β}
    {put : σ → σ₁ → σ₁} {put' : τ → τ₁ → τ₁} {k : ε → ε₁} {k' : ε' → ε₁'} {s : σ₁} {t : τ₁}
    {B₁ : ε₁ → σ₁ → Prop} {B₁' : ε₁' → τ₁ → Prop} {Q' : α → β → σ₁ → τ₁ → Prop}
    {E' : ε₁ → ε₁' → σ₁ → τ₁ → Prop} (h : Concur B B' Q E (m (get s)) (n (get' t)))
    (hB : ∀ e s', B e s' → B₁ (k e) (put s' s)) (hB' : ∀ e t', B' e t' → B₁' (k' e) (put' t' t))
    (hQ : ∀ a b s' t', Q a b s' t' → Q' a b (put s' s) (put' t' t))
    (hE : ∀ e e' s' t', E e e' s' t' → E' (k e) (k' e') (put s' s) (put' t' t)) :
    Concur B₁ B₁' Q' E' ((m.on get put).mapError k s) ((n.on get' put').mapError k' t) := by
  rw [mapError_apply, on_apply, mapError_apply, on_apply]
  rcases hm : m (get s) with ⟨r, s'⟩
  rcases hn : n (get' t) with ⟨r', t'⟩
  rw [hm, hn] at h
  rcases h with ⟨e, rfl, h⟩ | ⟨e, rfl, h⟩ | h
  · exact .inl ⟨k e, rfl, hB e s' h⟩
  · exact .inr (.inl ⟨k' e, rfl, hB' e t' h⟩)
  · cases h with
    | ok h => exact ok (hQ _ _ _ _ h)
    | error h => exact error (hE _ _ _ _ h)

end Concur

end Offload.Step
