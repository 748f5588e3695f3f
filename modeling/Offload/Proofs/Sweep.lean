import Offload.Kernel.Execution
import Offload.Proofs.StepLogic

/-!
# The way through a grid

A kernel goes through its grid in three loops, one inside the other. The first coordinate runs
fastest, as it does in the numbers of the points, so that the points come up in the order of their
numbers, also where some size is zero and there are none. Three loops over coordinates are therefore
as good as one that counts.

* `Step.range_range` — a loop in a loop is one loop.
* `Grid.sweep_eq_range` — the way through a grid is the way through the numbers of its points.
* `Kernel.runItems` — the bodies of a stretch of points.
* `Kernel.execute_apply` — a kernel runs the bodies of all points in the order of their numbers.
-/

namespace Offload

namespace Step

variable {ε σ : Type} (f : Nat → Step ε σ Unit)

theorem range_succ (n first : Nat) :
    range f (n + 1) first = f first >>= fun _ => range f n (first + 1) := by
  funext s
  rw [range, bind_apply]
  dsimp only
  rcases f first s with ⟨e | u, s'⟩ <;> rfl

/-- A stretch of numbers is one part of it and then the other. -/
theorem range_add (m n first : Nat) :
    range f (m + n) first = range f m first >>= fun _ => range f n (first + m) := by
  induction m generalizing first with
  | zero =>
    rw [Nat.zero_add]
    rfl
  | succ m ih =>
    have hnext : first + (m + 1) = first + 1 + m := by omega
    rw [Nat.succ_add, range_succ, range_succ, bind_assoc, ih, hnext]

/-- What is done for each number may look ahead by a fixed distance. -/
theorem range_shift (d n first : Nat) :
    range (fun i => f (i + d)) n first = range f n (first + d) := by
  induction n generalizing first with
  | zero => rfl
  | succ n ih =>
    have hnext : first + 1 + d = first + d + 1 := by omega
    rw [range_succ, range_succ, ih, hnext]

variable {f}

/-- Only what is done for the numbers of the stretch matters. -/
theorem range_congr {f' : Nat → Step ε σ Unit} {n first : Nat}
    (h : ∀ i, first ≤ i → i < first + n → f i = f' i) : range f n first = range f' n first := by
  induction n generalizing first with
  | zero => rfl
  | succ n ih =>
    have hrest : ∀ i, first + 1 ≤ i → i < first + 1 + n → f i = f' i := fun i hlow hhigh =>
      h i (by omega) (by omega)
    rw [range_succ, range_succ, h first (Nat.le_refl _) (by omega), ih hrest]

/-- A loop over stretches of the same width, one after the other, is one loop. -/
theorem range_range (f : Nat → Step ε σ Unit) (width n first : Nat) :
    range (fun i => range f width (width * i)) n first =
      range f (width * n) (width * first) := by
  induction n generalizing first with
  | zero => rfl
  | succ n ih =>
    have hsize : width * (n + 1) = width + width * n := by rw [Nat.mul_succ, Nat.add_comm]
    rw [range_succ, ih, hsize, range_add, Nat.mul_succ]

/-- A loop over numbers is a way through the list of them. -/
theorem range_eq_each (f : Nat → Step ε σ Unit) (n first : Nat) :
    range f n first = each (List.range' first n) f := by
  induction n generalizing first with
  | zero => rfl
  | succ n ih =>
    rw [range_succ, List.range'_succ, ih]
    rfl

end Step

open Step

namespace Grid

variable {ε σ : Type}

/-- The points of a grid come up in the order of their numbers. -/
theorem sweep_eq_range (g : Grid) (visit : WorkItem → Step ε σ Unit) :
    g.sweep visit = range (fun n => visit (g.item n)) g.count 0 := by
  have hpoint : g.sweep visit = range (fun z => range (fun y => range (fun x =>
      visit (g.item (x + g.x * (y + g.y * z)))) g.x 0) g.y 0) g.z 0 := by
    refine range_congr fun z _ hz => range_congr fun y _ hy => range_congr fun x _ hx => ?_
    have hitem : g.item (x + g.x * (y + g.y * z)) = ⟨x, y, z, g⟩ :=
      item_linear (i := ⟨x, y, z, g⟩) ⟨by simpa using hx, by simpa using hy, by simpa using hz⟩
    rw [hitem]
  -- the loops become one from the inside out
  have hrow (y z : Nat) : range (fun x => visit (g.item (x + g.x * (y + g.y * z)))) g.x 0 =
      range (fun n => visit (g.item n)) g.x (g.x * (y + g.y * z)) := by
    rw [range_shift (fun n => visit (g.item n)), Nat.zero_add]
  have hlayer (z : Nat) : range (fun y => range (fun n => visit (g.item n)) g.x
      (g.x * (y + g.y * z))) g.y 0 =
      range (fun n => visit (g.item n)) (g.x * g.y) (g.x * g.y * z) := by
    rw [range_shift (fun y => range (fun n => visit (g.item n)) g.x (g.x * y)), Nat.zero_add,
      range_range, Nat.mul_assoc]
  simp only [hpoint, hrow, hlayer]
  rw [range_range, Nat.mul_zero, count]

end Grid

namespace Kernel

/-- Run the bodies of `n` points in a row, from number `first` on. -/
def runItems (k : Kernel) (f : Frame) (g : Grid) : (n first : Nat) → Step Halt Execution Unit
  | 0, _ => pure ()
  | n + 1, first => fun s =>
    match (k.body (g.item first)).run f s with
    | (.ok (), s') => runItems k f g n (first + 1) s'
    | (.error h, s') => (.error h, s')

theorem runItems_eq_range (k : Kernel) (f : Frame) (g : Grid) (n first : Nat) :
    k.runItems f g n first = range (fun i => (k.body (g.item i)).run f) n first := by
  induction n generalizing first with
  | zero => rfl
  | succ n ih =>
    funext s
    rw [runItems, range_succ, bind_apply, ← ih]
    dsimp only
    rcases (k.body (g.item first)).run f s with ⟨h | u, s'⟩ <;> rfl

/-- A kernel runs the bodies of all points in the order of their numbers, if the blocks of its
arguments can be held. -/
theorem execute_apply (k : Kernel) (args : List LaunchArg) (g : Grid) (s : Execution) :
    k.execute args g s =
      match LockTable.acquire s.arena args with
      | .error e => (.error e, s)
      | .ok locks =>
        (k.runItems ⟨k.name, k.params, args, locks⟩ g g.count 0).mapError (Halt.toError k.name)
          s := by
  rw [execute]
  rcases LockTable.acquire s.arena args with e | locks
  · rfl
  · dsimp only
    rw [Grid.sweep_eq_range, runItems_eq_range]

end Kernel

end Offload
