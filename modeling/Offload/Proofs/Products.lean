import Offload.Container.Matrix4
import Offload.Proofs.RowMajor

/-!
# One product

Addition of single-precision numbers is not associative, so that a product is determined only once
the order of every sum is. There is one such order, from the first place to the last, and all
products follow it: rows that are cut out of an array, places that are counted, and four lanes that
are gathered from a column are three ways to come by the same factors.

* `Single.dot_map` — factors that are given place by place.
* `Linear.rowProduct_column` — a row times a column that was taken out is a row times the column.
* `Container.FloatMatrix.mulVec?_eq`, `Container.Matrix4.mul_eq` — the products of matrices in the
  terms of the routines of the host.
* `Linear.products_agree` — all products agree in every bit.
-/

namespace Offload

open Container Linear

variable {m n k i j : Nat}

/-- The sum of products of factors that are given place by place. -/
theorem Single.dot_map {α : Type} (f g : α → Single) (xs : List α) :
    Single.dot (xs.map f) (xs.map g) = Single.sum (xs.map fun l => f l * g l) := by
  rw [Single.dot, List.zipWith_map, List.zipWith_self]

/-! ### The matrices -/

namespace Container.FloatMatrix

theorem mulVec?_eq {a : FloatMatrix} {x : FloatVector} (hfits : a.Fits) (h : x.length = a.cols) :
    a.mulVec? x =
      some (.ok (.ofList ((List.range a.rows).map (rowProduct a.cols (nth a.data) x.toList)))) := by
  have hrows : (List.range a.rows).mapM (fun i => (a.row? i).map (Single.dot · x.toList)) =
      some ((List.range a.rows).map (rowProduct a.cols (nth a.data) x.toList)) := by
    refine mapM_eq_some fun i hi => ?_
    rw [row?_eq hfits (List.mem_range.mp hi), Option.map_some, rowProduct]
    refine congrArg (some <| Single.dot · x.toList) (List.map_congr_left fun j _ => ?_)
    rw [entry, Nat.add_comm]
  rw [mulVec?, if_pos h, hrows, Option.map_some]

/-- In a shape that does not fit there is a row that starts before and ends behind the greatest
size, so that its end wraps and comes before its start. -/
theorem exists_row?_eq_none {a : FloatMatrix} (hcols : a.cols < Decimal.sizeBound)
    (h : ¬ a.Fits) : ∃ i < a.rows, a.row? i = none := by
  have hpos : 0 < a.cols := Nat.pos_of_ne_zero fun h0 => h (by rw [Fits, h0, Nat.mul_zero]; decide)
  -- the row in which the last place lies that a size can name
  let i := (Decimal.sizeBound - 1) / a.cols
  have hstart : i * a.cols < Decimal.sizeBound :=
    Nat.lt_of_le_of_lt (Nat.div_mul_le_self _ _) (by decide)
  have hend : Decimal.sizeBound ≤ i * a.cols + a.cols :=
    Nat.le_of_pred_lt (Nat.lt_div_mul_add hpos)
  have hlt : i < a.rows := by
    refine Nat.lt_of_not_le fun hle => h (Nat.lt_of_le_of_lt ?_ hstart)
    exact Nat.mul_le_mul_right _ hle
  have hwrap : wrap ((i + 1) * a.cols) = i * a.cols + a.cols - Decimal.sizeBound := by
    rw [Nat.succ_mul, wrap, Nat.mod_eq_sub_mod hend, Nat.mod_eq_of_lt (by omega)]
  refine ⟨i, hlt, if_neg fun hle => ?_⟩
  rw [hwrap, wrap_of_lt hstart] at hle
  omega

end Container.FloatMatrix

namespace Container.Matrix4

theorem entry_eq (a : Matrix4) (i j : Fin 4) :
    a.entry i j = nth a.data.toArray (i.val * 4 + j.val) := by
  have hlt : i.val * 4 + j.val < a.data.toArray.size := by
    rw [a.data.size_toArray]
    omega
  rw [Matrix4.entry, nth, Array.getD, dif_pos hlt]
  simp only [Nat.add_comm]
  rfl

/-- The lanes that a row consists of are the lanes that are loaded. -/
theorem row?_eq (a : Matrix4) (i : Fin 4) : a.row? i = some (a.rowLanes i) := by
  have hle : i.val * 4 + 4 ≤ a.data.toArray.size := by
    rw [a.data.size_toArray]
    omega
  rw [row?, Float4.load?, dif_pos hle]
  refine congrArg (some ∘ Float4.mk ∘ Vector.ofFn) (funext fun j => ?_)
  simp only [Matrix4.entry, Nat.add_comm]
  rfl

theorem get_eq (a : Matrix4) (i j : Fin 4) : a.get i j = .ok (a.entry i j) := by
  rw [get, place, dif_pos ⟨i.isLt, j.isLt⟩]
  rfl

/-- The lanes that a column consists of are the lanes that are gathered. -/
theorem column_eq (a : Matrix4) (j : Fin 4) : a.column j = .ok (a.columnLanes j) := by
  rw [column, show a.get 0 j = _ from a.get_eq 0 j, show a.get 1 j = _ from a.get_eq 1 j,
    show a.get 2 j = _ from a.get_eq 2 j, show a.get 3 j = _ from a.get_eq 3 j]
  rfl

/-- Four lanes times four lanes, in the order of the lanes. -/
theorem dot_lanes (a b : Matrix4) (i j : Fin 4) : (a.rowLanes i).dot (b.columnLanes j) =
    Linear.entry 4 4 (nth a.data.toArray) (nth b.data.toArray) i j := by
  have hdot : (a.rowLanes i).dot (b.columnLanes j) =
      Single.sum ((List.finRange 4).map fun l => a.entry i l * b.entry l j) :=
    Single.dot_map (a.entry i ·) (b.entry · j) (List.finRange 4)
  simp only [hdot, entry_eq]
  rfl

theorem entry_ofRule (f : Fin 4 → Fin 4 → Single) (i j : Fin 4) : (ofRule f).entry i j = f i j := by
  simp [entry, ofRule, FloatMatrix.place_div j.isLt, Nat.mod_eq_of_lt j.isLt]

theorem mul_eq (a b : Matrix4) : (a.mul b).data.toArray = ((List.range 16).map fun p =>
    Linear.entry 4 4 (nth a.data.toArray) (nth b.data.toArray) (p / 4) (p % 4)).toArray := by
  refine Array.ext (by simp) fun p hp hp' => ?_
  simp [mul, ofRule, dot_lanes]

end Container.Matrix4

/-! ### The routines -/

namespace Linear

/-- A column that was taken out of a matrix is as good as the column. -/
theorem rowProduct_column (a b : Nat → Single) (i j : Nat) :
    rowProduct k a ((List.range k).map fun l => b (l * n + j)) i = entry k n a b i j :=
  Single.dot_map _ _ _

/-- The entry in row `i` and column `j` of a product. -/
theorem entry_product {a b : Nat → Single} {r : FloatMatrix} (hcols : r.cols = n) (hdata : r.data =
      ((List.range (m * n)).map fun p => entry k n a b (p / n) (p % n)).toArray)
    (hi : i < m) (hj : j < n) : r.entry i j = entry k n a b i j := by
  simp [FloatMatrix.entry, hcols, hdata, nth, Array.getD, FloatMatrix.place_lt hi hj,
    FloatMatrix.place_div hj, FloatMatrix.place_mod hj]

/-- A product of two matrices is, column by column, the product of the first one with a vector. -/
theorem column_product {a b c y : Array Single} (ha : a.size = m * k) (hb : b.size = k * n)
    (hc : c.size = m * n) (hy : y.size = m) (hbsize : b.size < Decimal.sizeBound)
    (hcsize : c.size < Decimal.sizeBound) : ∃ s r : FloatMatrix,
      FloatMatrix.ofArray k n b = .ok s ∧ r.rows = m ∧ r.cols = n ∧
        sgemm m n k a b c = some r.data ∧ ∀ j < n, ∃ x col,
          s.column? j = some x ∧ r.column? j = some col ∧
            sgemv m k a x.data y = some col.data := by
  rw [hb] at hbsize
  rw [hc] at hcsize
  let entries := (List.range (m * n)).map fun p => entry k n (nth a) (nth b) (p / n) (p % n)
  let s : FloatMatrix := ⟨k, n, b, hb.trans (wrap_of_lt hbsize).symm⟩
  let r : FloatMatrix := ⟨m, n, entries.toArray, by simp [entries, wrap_of_lt hcsize]⟩
  have hs : s.Fits := hbsize
  have hr : r.Fits := hcsize
  refine ⟨s, r, dif_pos s.size_eq, rfl, rfl,
    sgemm_eq (Nat.le_of_eq ha.symm) (Nat.le_of_eq hb.symm) hc, fun j hj => ?_⟩
  refine ⟨_, _, FloatMatrix.column?_eq hs hj, FloatMatrix.column?_eq hr hj, ?_⟩
  rw [sgemv_eq (Nat.le_of_eq ha.symm) hy]
  refine congrArg (some ∘ List.toArray) (List.map_congr_left fun i hi => ?_)
  rw [entry_product (r := r) rfl rfl (List.mem_range.mp hi) hj, ← rowProduct_column]
  refine congrArg (rowProduct k (nth a) · i) (List.map_congr_left fun l _ => ?_)
  rw [FloatMatrix.entry, Nat.add_comm]

end Linear

/-- **All products agree in every bit.** A matrix times a vector is what the routine for a matrix
and a vector leaves, whatever was there before; where the shape of the matrix does not fit, neither
of them has a result. Each column of what the routine for two matrices leaves is what the routine
for a matrix and a vector leaves for this column of the second matrix. The product of two matrices
of four rows and four columns, which consists of lanes that are loaded times lanes that are
gathered, is what the routine for two matrices leaves. -/
theorem Linear.products_agree :
    (∀ (a : FloatMatrix) (x : FloatVector) (y : Array Single), x.length = a.cols →
      y.size = a.rows → (a.rows * a.cols < Decimal.sizeBound → ∃ v, a.mulVec? x = some (.ok v) ∧
        sgemv a.rows a.cols a.data x.data y = some v.data) ∧
      (Decimal.sizeBound ≤ a.rows * a.cols → a.cols < Decimal.sizeBound → a.mulVec? x = none ∧
        sgemv a.rows a.cols a.data x.data y = none)) ∧
    (∀ (m n k : Nat) (a b c y : Array Single), a.size = m * k → b.size = k * n →
      c.size = m * n → y.size = m → b.size < Decimal.sizeBound → c.size < Decimal.sizeBound →
      ∃ s r : FloatMatrix, FloatMatrix.ofArray k n b = .ok s ∧ r.rows = m ∧ r.cols = n ∧
        sgemm m n k a b c = some r.data ∧ ∀ j < n, ∃ x col,
          s.column? j = some x ∧ r.column? j = some col ∧
            sgemv m k a x.data y = some col.data) ∧
    ∀ a b : Matrix4,
      (∀ i j : Fin 4, ∃ r c, a.row? i = some r ∧ b.column j = .ok c ∧
        (a.mul b).get i j = .ok (r.dot c)) ∧
      ∀ c : Array Single, c.size = 16 →
        sgemm 4 4 4 a.data.toArray b.data.toArray c = some (a.mul b).data.toArray := by
  refine ⟨fun a x y hx hy => ⟨fun hfits => ?_, fun hwide hcols => ⟨?_, ?_⟩⟩,
    fun m n k a b c y ha hb hc hy => column_product ha hb hc hy,
    fun a b => ⟨fun i j => ?_, fun c hc => ?_⟩⟩
  · exact ⟨_, FloatMatrix.mulVec?_eq hfits hx,
      sgemv_eq (Nat.le_of_eq (FloatMatrix.Fits.size hfits).symm) hy⟩
  · obtain ⟨i, hi, hrow⟩ := FloatMatrix.exists_row?_eq_none hcols (Nat.not_lt.mpr hwide)
    have hrows := mapM_eq_none (List.mem_range.mpr hi)
      (f := fun i => (a.row? i).map (Single.dot · x.toList)) (by rw [hrow, Option.map_none])
    rw [FloatMatrix.mulVec?, if_pos hx, hrows, Option.map_none]
  · exact sgemv_eq_none (Nat.lt_of_lt_of_le (a.size_eq ▸ wrap_lt _) hwide) hy
  · refine ⟨_, _, a.row?_eq i, b.column_eq j, ?_⟩
    rw [Matrix4.get_eq, Matrix4.mul, Matrix4.entry_ofRule]
  · rw [a.mul_eq b]
    exact sgemm_eq (Nat.le_of_eq (by simp)) (Nat.le_of_eq (by simp)) hc

/-- In the first row the sum of the greatest number and itself is no longer finite, so that it
matters that the same number is taken away only after that. -/
theorem Linear.products_agree_overflow :
    let a : FloatMatrix :=
      ⟨2, 3, #[.greatest, .greatest, ⟨0xFF7FFFFF⟩, .one, .nan, .one], rfl⟩
    let x : Array Single := #[.one, .one, .one]
    let y : Array Single := #[.zero, .one]
    (∃ v, a.mulVec? ⟨x⟩ = some (.ok v) ∧ sgemv 2 3 a.data x y = some v.data) ∧
      sgemv 2 3 a.data x y = some #[.infinity, .nan] ∧
      (∃ s r : FloatMatrix, FloatMatrix.ofArray 3 1 x = .ok s ∧ r.rows = 2 ∧ r.cols = 1 ∧
        sgemm 2 1 3 a.data x y = some r.data ∧ ∀ j < 1, ∃ x' col, s.column? j = some x' ∧
          r.column? j = some col ∧ sgemv 2 3 a.data x'.data y = some col.data) ∧
      sgemm 4 4 4 Matrix4.identity.data.toArray Matrix4.zeros.data.toArray (.replicate 16 .nan) =
        some (Matrix4.identity.mul Matrix4.zeros).data.toArray := by
  intro a x y
  exact ⟨(products_agree.1 a ⟨x⟩ y rfl rfl).1 (by decide), by decide,
    products_agree.2.1 2 1 3 a.data x y y rfl rfl rfl rfl (by decide) (by decide),
    (products_agree.2.2 _ _).2 _ rfl⟩

end Offload
