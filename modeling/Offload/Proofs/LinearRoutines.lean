import Offload.Linear.Routine

/-!
# The routines of the host, element by element

What a routine of the host leaves at each place of its result, where no array is too short. An array
is seen as a function from places to numbers, so that memory of a device can be seen in the same
way.

* `Linear.sgemv_eq`, `Linear.sgemm_eq`, `Linear.saxpy_eq` — the results of the three routines.
-/

namespace Offload.Linear

variable {m n k : Nat} {a b c x y : Array Single}

/-- A list every member of which has an image. -/
theorem mapM_eq_some {α β : Type} {f : α → Option β} {g : α → β} {xs : List α}
    (h : ∀ v ∈ xs, f v = some (g v)) : xs.mapM f = some (xs.map g) := by
  induction xs with
  | nil => rfl
  | cons v r ih =>
    rw [List.mapM_cons, h v List.mem_cons_self, ih fun w hw => h w (List.mem_cons_of_mem _ hw)]
    rfl

/-- A list a member of which has no image. -/
theorem mapM_eq_none {α β : Type} {f : α → Option β} {xs : List α} {v : α} (hmem : v ∈ xs)
    (h : f v = none) : xs.mapM f = none := by
  induction xs with
  | nil => cases hmem
  | cons w r ih =>
    rw [List.mapM_cons]
    rcases List.mem_cons.mp hmem with rfl | hmem
    · rw [h]
      rfl
    · rw [ih hmem]
      cases f w <;> rfl

/-- The number at a place of an array. -/
def nth (a : Array Single) (i : Nat) : Single := a.getD i .zero

theorem getElem?_eq_nth {i : Nat} (h : i < a.size) : a[i]? = some (nth a i) := by
  rw [nth, Array.getD_eq_getD_getElem?, Array.getElem?_eq_getElem h, Option.getD_some]

theorem getElem?_toArray_eq_nth {vs : List Single} {i : Nat} (h : i < vs.length) :
    vs[i]? = some (nth vs.toArray i) := by
  rw [← getElem?_eq_nth (by simpa using h), List.getElem?_toArray]

/-- Nothing lies between a place and itself. -/
theorem extract_self (a : Array Single) (i : Nat) : a.extract i i = #[] :=
  Array.eq_empty_of_size_eq_zero (by rw [Array.size_extract]; omega)

/-! ### A matrix times a vector -/

/-- The product of row `i`, which has `n` elements, and a vector. -/
def rowProduct (n : Nat) (a : Nat → Single) (x : List Single) (i : Nat) : Single :=
  Single.dot ((List.range n).map fun j => a (i * n + j)) x

/-- A stretch that lies within an array. -/
theorem stretch?_eq {start : Nat} (h : start + n ≤ a.size) :
    stretch? a start n = some ((List.range n).map fun j => nth a (start + j)) := by
  rw [stretch?, if_pos h]
  refine congrArg some (List.ext_getElem? fun j => ?_)
  rw [Array.getElem?_toList, Array.getElem?_extract, List.getElem?_map, Nat.min_eq_left h]
  by_cases hj : j < n
  · rw [if_pos (by omega), List.getElem?_range hj, getElem?_eq_nth (by omega)]
    rfl
  · rw [if_neg (by omega), List.getElem?_eq_none (by simpa using hj)]
    rfl

/-- Row `i` of a matrix that is large enough. -/
theorem row_le {i size : Nat} (hi : i < m) (h : m * n ≤ size) : i * n + n ≤ size := by
  rw [← Nat.succ_mul]
  exact Nat.le_trans (Nat.mul_le_mul_right n hi) h

theorem sgemv_eq (ha : m * n ≤ a.size) (hy : y.size = m) :
    sgemv m n a x y = some ((List.range m).map (rowProduct n (nth a) x.toList)).toArray := by
  have hrows : (List.range m).mapM (fun i =>
      (stretch? a (i * n) n).map fun row => Single.dot row x.toList) =
        some ((List.range m).map (rowProduct n (nth a) x.toList)) := by
    refine mapM_eq_some fun i hi => ?_
    rw [stretch?_eq (row_le (List.mem_range.mp hi) ha)]
    rfl
  have hrest : y.extract m m = #[] := extract_self y m
  simp only [sgemv, hy, Nat.min_self, hrows, hrest]
  simp

/-- A matrix that is too small has a row that goes beyond its end. -/
theorem sgemv_eq_none (ha : a.size < m * n) (hy : y.size = m) : sgemv m n a x y = none := by
  obtain ⟨i, rfl⟩ : ∃ i, m = i + 1 := Nat.exists_eq_add_one_of_ne_zero fun h => by simp [h] at ha
  rw [Nat.succ_mul] at ha
  have hrow : stretch? a (i * n) n = none := if_neg (Nat.not_le.mpr ha)
  have hrows : (List.range (i + 1)).mapM (fun i =>
      (stretch? a (i * n) n).map fun row => Single.dot row x.toList) = none :=
    mapM_eq_none (List.mem_range.mpr (Nat.lt_succ_self i)) (by rw [hrow, Option.map_none])
  simp only [sgemv, hy, Nat.min_self, hrows]
  rfl

/-! ### The product of two matrices -/

/-- The product of row `i`, which has `k` elements, and column `j` of a matrix whose rows have `n`
elements. -/
def entry (k n : Nat) (a b : Nat → Single) (i j : Nat) : Single :=
  .sum ((List.range k).map fun l => a (i * k + l) * b (l * n + j))

/-- A place in row `l` of a matrix. -/
theorem place_lt {l j size : Nat} (hl : l < k) (hj : j < n) (h : k * n ≤ size) :
    l * n + j < size :=
  Nat.lt_of_lt_of_le (Nat.add_lt_add_left hj _) (row_le hl h)

theorem entry?_eq {i j : Nat} (ha : i * k + k ≤ a.size) (hb : k * n ≤ b.size) (hj : j < n) :
    entry? k n a b i j = some (entry k n (nth a) (nth b) i j) := by
  have hterms : (List.range k).mapM (fun l => do
      return (← a[i * k + l]?) * (← b[l * n + j]?) : Nat → Option Single) =
        some ((List.range k).map fun l => nth a (i * k + l) * nth b (l * n + j)) := by
    refine mapM_eq_some fun l hl => ?_
    have hlt := List.mem_range.mp hl
    rw [getElem?_eq_nth (show i * k + l < a.size by omega), getElem?_eq_nth (place_lt hlt hj hb)]
    rfl
  unfold entry?
  rw [hterms]
  rfl

theorem sgemm_eq (ha : m * k ≤ a.size) (hb : k * n ≤ b.size) (hc : c.size = m * n) :
    sgemm m n k a b c =
      some ((List.range (m * n)).map fun p =>
        entry k n (nth a) (nth b) (p / n) (p % n)).toArray := by
  have hentries : (List.range (m * n)).mapM (fun p => entry? k n a b (p / n) (p % n)) =
      some ((List.range (m * n)).map fun p => entry k n (nth a) (nth b) (p / n) (p % n)) := by
    refine mapM_eq_some fun p hp => ?_
    have hlt := List.mem_range.mp hp
    have hn : 0 < n := Nat.pos_of_ne_zero fun h => by simp [h] at hlt
    have hi : p / n < m := Nat.div_lt_of_lt_mul (Nat.mul_comm m n ▸ hlt)
    exact entry?_eq (row_le hi ha) hb (Nat.mod_lt p hn)
  have hrest : c.extract (m * n) (m * n) = #[] := extract_self c (m * n)
  simp only [sgemm, hc, hentries, hrest]
  simp

/-! ### A multiple of a vector added to another -/

/-- What becomes of the number at place `i`, where the vector that is added has `len` elements. -/
def added (alpha : Single) (len : Nat) (x y : Nat → Single) (i : Nat) : Single :=
  if i < len then y i + alpha * x i else y i

theorem saxpy_eq (alpha : Single) (x y : Array Single) :
    saxpy alpha x y = ((List.range y.size).map (added alpha x.size (nth x) (nth y))).toArray := by
  refine Array.ext (by simp [saxpy]) fun i hi hi' => ?_
  have hy : i < y.size := by simpa [saxpy] using hi
  have hat : y[i] = nth y i := by simp [nth, Array.getD, hy]
  simp only [saxpy, Array.getElem_mapIdx, List.getElem_toArray, List.getElem_map,
    List.getElem_range, added, hat]
  split
  · rename_i hx
    rw [getElem?_eq_nth hx, Option.elim_some]
  · rename_i hx
    rw [Array.getElem?_eq_none (Nat.le_of_not_lt hx), Option.elim_none]

end Offload.Linear
