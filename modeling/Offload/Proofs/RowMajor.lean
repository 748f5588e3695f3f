import Offload.Container.FloatMatrix
import Offload.Proofs.LinearRoutines
import Offload.Proofs.StepLogic

/-!
# Matrices, place by place

A matrix is what its elements are. However it was made and changed, there is a place in the array
for each row and each column of its shape, and no other; rows, columns and the transpose are three
more ways to walk through the same places. This is so for every shape that there is room for: where
the number of places wraps, there are fewer.

* `FloatMatrix.Change` — what can be done to a matrix in place.
* `FloatMatrix.Reached` — a matrix that was made and changed, with the shape that it has to have.
* `FloatMatrix.RowMajor` — what a matrix of some shape does.
* `FloatMatrix.rowMajor_of_reached` — every matrix of a shape that there is room for does it,
  whatever was done before.
* `FloatMatrix.places_missing` — shapes that there is no room for.
-/

namespace Offload.Container.FloatMatrix

open Linear (nth)

variable {rows cols m n i j i' j' k : Nat} {a b : FloatMatrix} {v : Single} {data : Array Single}

/-! ### Places -/

/-- The number of places is a size. -/
def Fits (a : FloatMatrix) : Prop := a.rows * a.cols < Decimal.sizeBound

/-- There is room for an element at every place. -/
def Storable (a : FloatMatrix) : Prop := a.rows * a.cols < lengthBound

theorem lt_sizeBound {n : Nat} (h : n < lengthBound) : n < Decimal.sizeBound :=
  Nat.lt_trans h (by decide)

theorem Storable.fits (h : a.Storable) : a.Fits := lt_sizeBound h

theorem Fits.size (h : a.Fits) : a.data.size = a.rows * a.cols := by
  rw [a.size_eq, wrap_of_lt h]

/-- The element at a place. -/
def entry (a : FloatMatrix) (i j : Nat) : Single := nth a.data (j + i * a.cols)

/-- There are as many places as rows times columns. -/
theorem place_lt (hi : i < rows) (hj : j < cols) : j + i * cols < rows * cols := by
  rw [Nat.add_comm]
  exact Linear.place_lt hi hj (Nat.le_refl _)

theorem Fits.place (h : a.Fits) (hi : i < a.rows) (hj : j < a.cols) :
    a.place i j = j + i * a.cols :=
  wrap_of_lt (Nat.lt_trans (place_lt hi hj) h)

/-- Every place of the shape is a place of the array. -/
theorem Fits.place_lt_size (h : a.Fits) (hi : i < a.rows) (hj : j < a.cols) :
    j + i * a.cols < a.data.size :=
  h.size ▸ place_lt hi hj

/-- Every place of the shape has its element. -/
theorem Fits.getElem?_place (h : a.Fits) (hi : i < a.rows) (hj : j < a.cols) :
    a.data[a.place i j]? = some (a.entry i j) := by
  rw [h.place hi hj]
  exact Linear.getElem?_eq_nth (h.place_lt_size hi hj)

theorem place_div (hj : j < cols) : (j + i * cols) / cols = i := by
  rw [Nat.add_mul_div_right _ _ (Nat.zero_lt_of_lt hj), Nat.div_eq_of_lt hj, Nat.zero_add]

theorem place_mod (hj : j < cols) : (j + i * cols) % cols = j := by
  rw [Nat.add_mul_mod_self_right, Nat.mod_eq_of_lt hj]

/-- No two places of the shape are the same place of the array. -/
theorem place_inj (hj : j < cols) (hj' : j' < cols) (h : j + i * cols = j' + i' * cols) :
    i = i' ∧ j = j' := by
  have hdiv := congrArg (· / cols) h
  have hmod := congrArg (· % cols) h
  simp only [place_div hj, place_div hj'] at hdiv
  simp only [place_mod hj, place_mod hj'] at hmod
  exact ⟨hdiv, hmod⟩

/-- Matrices of one shape with the same elements are the same. -/
theorem ext_entry (hfits : a.Fits) (hrows : a.rows = b.rows) (hcols : a.cols = b.cols)
    (h : ∀ i < a.rows, ∀ j < a.cols, a.entry i j = b.entry i j) : a = b := by
  have hsize := hfits.size
  obtain ⟨rows, cols, data, hwrap⟩ := a
  obtain ⟨rows', cols', data', hwrap'⟩ := b
  cases hrows
  cases hcols
  have hdata : data = data' := by
    refine Array.ext (hwrap.trans hwrap'.symm) fun k hk hk' => ?_
    -- the place in the array is that of a row and a column
    have hlt : k < rows * cols := hsize ▸ hk
    have hpos : 0 < cols := Nat.pos_of_ne_zero fun h0 => by simp [h0] at hlt
    have hrow : k / cols < rows := Nat.div_lt_of_lt_mul (Nat.mul_comm rows cols ▸ hlt)
    have hentry := h _ hrow _ (Nat.mod_lt k hpos)
    simp only [entry, Nat.mod_add_div'] at hentry
    simpa [nth, Array.getD, hk, hk'] using hentry
  cases hdata
  rfl

theorem get?_of_lt (h : a.Fits) (hi : i < a.rows) (hj : j < a.cols) :
    a.get? i j = some (.ok (a.entry i j)) := by
  rw [get?, if_pos ⟨hi, hj⟩, h.getElem?_place hi hj, Option.map_some]

theorem get?_of_not (h : ¬ (i < a.rows ∧ j < a.cols)) :
    a.get? i j = some (.error (.outOfBounds i j a.rows a.cols)) :=
  if_neg h

/-! ### Changing a matrix -/

theorem size_replaced (a : FloatMatrix) (i j : Nat) (v : Single) :
    (a.data.setIfInBounds (j + i * a.cols) v).size = wrap (a.rows * a.cols) := by
  rw [Array.size_setIfInBounds, a.size_eq]

/-- The matrix with another element at a place. -/
def replaced (a : FloatMatrix) (i j : Nat) (v : Single) : FloatMatrix :=
  ⟨a.rows, a.cols, a.data.setIfInBounds (j + i * a.cols) v, a.size_replaced i j v⟩

/-- An element can be put at every place of the shape. -/
theorem Fits.put? (h : a.Fits) (hi : i < a.rows) (hj : j < a.cols) (v : Single) :
    a.put? (j + i * a.cols) v = some (a.replaced i j v) := by
  have hlt := h.place_lt_size hi hj
  simp only [FloatMatrix.put?, dif_pos hlt, replaced, Array.setIfInBounds]

theorem Fits.entry_replaced_self (h : a.Fits) (hi : i < a.rows) (hj : j < a.cols) :
    (a.replaced i j v).entry i j = v := by
  simp [entry, nth, replaced, Array.getD, h.place_lt_size hi hj]

theorem entry_replaced_ne (hj : j < a.cols) (hj' : j' < a.cols) (h : (i', j') ≠ (i, j)) :
    (a.replaced i j v).entry i' j' = a.entry i' j' := by
  have hplace : j + i * a.cols ≠ j' + i' * a.cols := by
    intro he
    obtain ⟨rfl, rfl⟩ := place_inj hj hj' he
    exact h rfl
  simp only [entry, nth, replaced, Array.getD_eq_getD_getElem?]
  rw [Array.getElem?_setIfInBounds_ne hplace]

theorem get?_replaced_ne (hfits : a.Fits) (hj : j < a.cols) (h : (i', j') ≠ (i, j)) :
    (a.replaced i j v).get? i' j' = a.get? i' j' := by
  by_cases hin : i' < a.rows ∧ j' < a.cols
  · rw [get?_of_lt hfits hin.1 hin.2, get?_of_lt (a := a.replaced i j v) hfits hin.1 hin.2,
      entry_replaced_ne hj hin.2 h]
  · rw [get?_of_not hin, get?_of_not (a := a.replaced i j v) hin]
    rfl

/-- What can be done to a matrix in place. -/
inductive Change where
  /-- replace one element -/
  | set (i j : Nat) (value : Single)
  /-- put the same value into every place -/
  | fill (value : Single)
  /-- replace all elements -/
  | load (data : Array Single)

/-- What a change leads to, if it comes to an end. A change that is refused leaves the matrix as it
was. -/
def Change.run? (c : Change) (a : FloatMatrix) : Option (Except ShapeError Unit × FloatMatrix) :=
  let result := match c with
    | set i j value => a.set? i j value
    | fill value => some (.ok (a.fill value))
    | load data => some (a.load data)
  result.map fun
    | .ok b => (.ok (), b)
    | .error e => (.error e, a)

/-- The matrix with other elements, as many as there were. -/
def reloaded (a : FloatMatrix) (data : Array Single) (h : data.size = wrap (a.rows * a.cols)) :
    FloatMatrix :=
  ⟨a.rows, a.cols, data, h⟩

theorem set_run? (h : a.Fits) (i j : Nat) (v : Single) : (Change.set i j v).run? a =
    some (if i < a.rows ∧ j < a.cols then (.ok (), a.replaced i j v)
      else (.error (.outOfBounds i j a.rows a.cols), a)) := by
  simp only [Change.run?, set?]
  by_cases hin : i < a.rows ∧ j < a.cols
  · rw [if_pos hin, if_pos hin, h.place hin.1 hin.2, h.put? hin.1 hin.2]
    rfl
  · rw [if_neg hin, if_neg hin]
    rfl

theorem load_run? (data : Array Single) (a : FloatMatrix) : (Change.load data).run? a =
    some (if h : data.size = a.data.size then (.ok (), a.reloaded data (h.trans a.size_eq))
      else (.error (.sizeMismatch a.data.size data.size), a)) := by
  simp only [Change.run?, FloatMatrix.load]
  by_cases h : data.size = a.data.size
  · rw [dif_pos h, dif_pos h]
    rfl
  · rw [dif_neg h, dif_neg h]
    rfl

/-- An element that is put somewhere does not change the shape. -/
theorem shape_of_put? {place : Nat} (h : a.put? place v = some b) :
    b.rows = a.rows ∧ b.cols = a.cols := by
  rw [put?] at h
  split at h
  · cases h
    exact ⟨rfl, rfl⟩
  · cases h

/-- No change is a change of the shape. -/
theorem Change.shape {c : Change} {r : Except ShapeError Unit} (h : c.run? a = some (r, b)) :
    b.rows = a.rows ∧ b.cols = a.cols := by
  cases c with
  | set i j v =>
    simp only [Change.run?, set?] at h
    split at h
    · obtain ⟨x, hx, he⟩ := Option.map_eq_some_iff.mp h
      obtain ⟨b', hput, rfl⟩ := Option.map_eq_some_iff.mp hx
      cases he
      exact shape_of_put? hput
    · cases h
      exact ⟨rfl, rfl⟩
  | fill v =>
    cases h
    exact ⟨rfl, rfl⟩
  | load data =>
    rw [load_run?] at h
    split at h <;> cases h <;> exact ⟨rfl, rfl⟩

theorem Fits.entry_fill (h : a.Fits) (hi : i < a.rows) (hj : j < a.cols) :
    (a.fill v).entry i j = v := by
  simp [entry, nth, fill, Array.getD, h.place_lt_size hi hj]

/-! ### Making a matrix -/

theorem entry_zeros (h : rows * cols < Decimal.sizeBound) (hi : i < rows) (hj : j < cols) :
    (zeros rows cols).entry i j = .zero := by
  simp [entry, nth, zeros, Array.getD, wrap_of_lt h, place_lt hi hj]

/-- There is room for the zeros. -/
theorem zeros?_eq (h : rows * cols < lengthBound) :
    zeros? rows cols = some (zeros rows cols) := by
  rw [zeros?, wrap_of_lt (lt_sizeBound h), if_pos h]

/-- A matrix with `n` rows and `n` columns that has ones in the first `k` places of the diagonal,
and zeros everywhere else. -/
structure Diagonal (n k : Nat) (a : FloatMatrix) : Prop where
  /-- there are `n` rows -/
  rows : a.rows = n
  /-- there are `n` columns -/
  cols : a.cols = n
  /-- the ones have come so far -/
  entry : ∀ i < n, ∀ j < n, a.entry i j = if i = j ∧ i < k then .one else .zero

theorem Diagonal.fits (h : Diagonal n k a) (hn : n * n < Decimal.sizeBound) : a.Fits := by
  rw [Fits, h.rows, h.cols]
  exact hn

/-- The places in the diagonal are `n + 1` places apart. -/
theorem Diagonal.step (h : Diagonal n k a) (hn : n * n < Decimal.sizeBound) (hk : k < n) :
    ∃ b, a.put? (wrap (k * (n + 1))) .one = some b ∧ Diagonal n (k + 1) b := by
  have hfits := h.fits hn
  have hrow : k < a.rows := h.rows ▸ hk
  have hcol : k < a.cols := h.cols ▸ hk
  have hplace : wrap (k * (n + 1)) = k + k * a.cols := by
    rw [← hfits.place hrow hcol, FloatMatrix.place, h.cols, Nat.mul_succ, Nat.add_comm]
  refine ⟨a.replaced k k .one, hplace ▸ hfits.put? hrow hcol .one, h.rows, h.cols,
    fun i hi j hj => ?_⟩
  by_cases hat : (i, j) = (k, k)
  · cases hat
    rw [hfits.entry_replaced_self hrow hcol, if_pos ⟨rfl, Nat.lt_succ_self k⟩]
  · rw [entry_replaced_ne hcol (h.cols.symm ▸ hj) hat, h.entry i hi j hj]
    refine if_congr (and_congr_right fun he => ?_) rfl rfl
    rw [Prod.mk.injEq] at hat
    omega

/-- A matrix with ones in the diagonal. -/
theorem identity?_eq (hn : n * n < lengthBound) :
    ∃ a, identity? n = some a ∧ Diagonal n n a := by
  have hfits := lt_sizeBound hn
  have hzeros : Diagonal n 0 (zeros n n) :=
    ⟨rfl, rfl, fun i hi j hj => (entry_zeros hfits hi hj).trans (if_neg (by omega)).symm⟩
  obtain ⟨a, ha, hdiagonal⟩ :=
    walk_invariant (n := n) hzeros fun k a _ hk h => h.step hfits (by omega)
  rw [Nat.zero_add] at hdiagonal
  refine ⟨a, ?_, hdiagonal⟩
  rw [identity?, zeros?_eq hn, Option.bind_some, ha]

/-- A matrix that is being filled with the elements of `a`, rows and columns exchanged: all rows
before `i` are there, and of row `i` all columns before `j`. -/
structure Exchanged (a : FloatMatrix) (i j : Nat) (b : FloatMatrix) : Prop where
  /-- there is a row for every column -/
  rows : b.rows = a.cols
  /-- there is a column for every row -/
  cols : b.cols = a.rows
  /-- the elements of the rows before this one -/
  before : ∀ i' < i, i' < a.rows → ∀ j' < a.cols, b.entry j' i' = a.entry i' j'
  /-- the elements of this row -/
  row : ∀ j' < j, j' < a.cols → b.entry j' i = a.entry i j'

theorem Exchanged.fits (h : Exchanged a i j b) (hfits : a.Fits) : b.Fits := by
  rw [Fits, h.rows, h.cols, Nat.mul_comm]
  exact hfits

theorem Exchanged.storable (h : Exchanged a i j b) (hroom : a.Storable) : b.Storable := by
  rw [Storable, h.rows, h.cols, Nat.mul_comm]
  exact hroom

/-- One more element of the row. -/
theorem Exchanged.step (h : Exchanged a i j b) (hfits : a.Fits) (hi : i < a.rows)
    (hj : j < a.cols) : ∃ c, a.data[a.place i j]?.bind (b.put? (wrap (i + j * a.rows))) = some c ∧
      Exchanged a i (j + 1) c := by
  have hrow : j < b.rows := h.rows ▸ hj
  have hcol : i < b.cols := h.cols ▸ hi
  have hplace : wrap (i + j * a.rows) = i + j * b.cols := by
    rw [← (h.fits hfits).place hrow hcol, FloatMatrix.place, h.cols]
  refine ⟨b.replaced j i (a.entry i j), ?_, h.rows, h.cols, fun i' hi' hlt j' hj' => ?_,
    fun j' hj' hlt => ?_⟩
  · rw [hfits.getElem?_place hi hj, Option.bind_some, hplace, (h.fits hfits).put? hrow hcol]
  · rw [entry_replaced_ne hcol (h.cols.symm ▸ hlt) (by simp; omega), h.before i' hi' hlt j' hj']
  · by_cases hat : j' = j
    · cases hat
      exact (h.fits hfits).entry_replaced_self hrow hcol
    · rw [entry_replaced_ne hcol hcol (by simpa using hat), h.row j' (by omega) hlt]

/-- The next row, after the last element of this one. -/
theorem Exchanged.next (h : Exchanged a i a.cols b) : Exchanged a (i + 1) 0 b where
  rows := h.rows
  cols := h.cols
  before i' hi' hlt j' hj' := by
    by_cases hat : i' = i
    · cases hat
      exact h.row j' hj' hj'
    · exact h.before i' (by omega) hlt j' hj'
  row _ hj' := absurd hj' (Nat.not_lt_zero _)

/-- There is a transpose. -/
theorem transpose?_eq (hroom : a.Storable) :
    ∃ b, a.transpose? = some b ∧ Exchanged a a.rows 0 b := by
  have hfits := hroom.fits
  have hzeros : Exchanged a 0 0 (zeros a.cols a.rows) :=
    ⟨rfl, rfl, fun _ h => absurd h (Nat.not_lt_zero _), fun _ h => absurd h (Nat.not_lt_zero _)⟩
  obtain ⟨b, hb, h⟩ := walk_invariant (n := a.rows) (P := fun i => Exchanged a i 0) hzeros
    fun i b _ hi h => by
      obtain ⟨c, hc, hrow⟩ := walk_invariant (n := a.cols) (P := Exchanged a i) h
        fun j b _ hj h => h.step hfits (by omega) (by omega)
      rw [Nat.zero_add] at hrow
      exact ⟨c, hc, hrow.next⟩
  rw [Nat.zero_add] at h
  refine ⟨b, ?_, h⟩
  rw [transpose?, zeros?_eq (Nat.mul_comm a.rows a.cols ▸ hroom), Option.bind_some, hb]

/-- What the transpose is. -/
theorem exchanged_of_transpose? (hroom : a.Storable) (h : a.transpose? = some b) :
    Exchanged a a.rows 0 b := by
  obtain ⟨c, hc, hexchanged⟩ := transpose?_eq hroom
  cases hc.symm.trans h
  exact hexchanged

theorem transpose?_transpose? (hroom : a.Storable) (h : a.transpose? = some b) :
    b.transpose? = some a := by
  have hb := exchanged_of_transpose? hroom h
  obtain ⟨c, hc, hexchanged⟩ := transpose?_eq (hb.storable hroom)
  have heq : a = c := by
    refine ext_entry hroom.fits (hb.cols.symm.trans hexchanged.rows.symm)
      (hb.rows.symm.trans hexchanged.cols.symm) fun i hi j hj => ?_
    rw [hexchanged.before j (hb.rows.symm ▸ hj) (hb.rows.symm ▸ hj) i (hb.cols.symm ▸ hi),
      hb.before i hi hi j hj]
  rw [hc, heq]

/-! ### Rows and columns -/

/-- The elements of a row, from the first column to the last. -/
theorem row?_eq (h : a.Fits) (hi : i < a.rows) :
    a.row? i = some ((List.range a.cols).map (a.entry i)) := by
  have hle : i * a.cols + a.cols ≤ a.data.size := Linear.row_le hi (Nat.le_of_eq h.size.symm)
  have hlt := Nat.lt_of_le_of_lt (Nat.le_trans hle (Nat.le_of_eq h.size)) h
  have hrow : a.row? i = Linear.stretch? a.data (i * a.cols) a.cols := by
    rw [row?, Linear.stretch?, Nat.succ_mul, wrap_of_lt hlt, wrap_of_lt (by omega)]
    exact if_congr (and_iff_right (Nat.le_add_right _ _)) rfl rfl
  rw [hrow, Linear.stretch?_eq hle]
  refine congrArg some (List.map_congr_left fun j _ => ?_)
  rw [entry, Nat.add_comm]

/-- The elements of a column, from the first row to the last. -/
theorem column?_eq (h : a.Fits) (hj : j < a.cols) :
    a.column? j = some (.ofList ((List.range a.rows).map fun i => a.entry i j)) := by
  have hmap : (List.range a.rows).mapM (fun i => a.data[a.place i j]?) =
      some ((List.range a.rows).map fun i => a.entry i j) :=
    Linear.mapM_eq_some fun i hi => h.getElem?_place (List.mem_range.mp hi) hj
  rw [column?, hmap, Option.map_some]

/-- A column is a row of the transpose. -/
theorem row?_transpose? (hroom : a.Storable) (h : a.transpose? = some b) (hj : j < a.cols) :
    b.row? j = some ((List.range a.rows).map fun i => a.entry i j) := by
  have hb := exchanged_of_transpose? hroom h
  rw [row?_eq (hb.storable hroom).fits (hb.rows.symm ▸ hj), hb.cols]
  refine congrArg some (List.map_congr_left fun i hi => ?_)
  exact hb.before i (List.mem_range.mp hi) (List.mem_range.mp hi) j hj

/-! ### Whatever was done before -/

/-- A matrix that was made and changed, with the number of rows and columns that it has to have. -/
inductive Reached : Nat → Nat → FloatMatrix → Prop
  /-- all elements are zero -/
  | zeros {rows cols : Nat} {a : FloatMatrix} (h : zeros? rows cols = some a) : Reached rows cols a
  /-- there are ones in the diagonal -/
  | identity {n : Nat} {a : FloatMatrix} (h : identity? n = some a) : Reached n n a
  /-- the elements are given -/
  | ofArray {rows cols : Nat} {data : Array Single} {a : FloatMatrix}
      (h : ofArray rows cols data = .ok a) : Reached rows cols a
  /-- rows and columns are exchanged -/
  | transpose {rows cols : Nat} {a b : FloatMatrix} (h : Reached rows cols a)
      (htranspose : a.transpose? = some b) : Reached cols rows b
  /-- something was done in place, or was refused -/
  | change {rows cols : Nat} {a b : FloatMatrix} {r : Except ShapeError Unit} {c : Change}
      (h : Reached rows cols a) (hchange : c.run? a = some (r, b)) : Reached rows cols b

/-- A matrix has the shape that it has to have, if there is room for it. -/
theorem Reached.shape (h : Reached m n a) (hroom : m * n < lengthBound) :
    a.rows = m ∧ a.cols = n := by
  induction h with
  | zeros h =>
    cases (zeros?_eq hroom).symm.trans h
    exact ⟨rfl, rfl⟩
  | identity h =>
    obtain ⟨b, hb, hdiagonal⟩ := identity?_eq hroom
    cases hb.symm.trans h
    exact ⟨hdiagonal.rows, hdiagonal.cols⟩
  | ofArray h =>
    rw [FloatMatrix.ofArray] at h
    split at h
    · cases h
      exact ⟨rfl, rfl⟩
    · cases h
  | transpose h htranspose ih =>
    obtain ⟨hrows, hcols⟩ := ih (Nat.mul_comm _ _ ▸ hroom)
    have hexchanged :=
      exchanged_of_transpose? (by rwa [Storable, hrows, hcols, Nat.mul_comm]) htranspose
    exact ⟨hexchanged.rows.trans hcols, hexchanged.cols.trans hrows⟩
  | change h hchange ih =>
    obtain ⟨hrows, hcols⟩ := Change.shape hchange
    exact ⟨hrows.trans (ih hroom).1, hcols.trans (ih hroom).2⟩

/-- What a matrix of `m` rows and `n` columns does. -/
structure RowMajor (m n : Nat) (a : FloatMatrix) : Prop where
  /-- it has so many rows -/
  rows : a.rows = m
  /-- and so many columns -/
  cols : a.cols = n
  /-- there are as many elements as places -/
  size : a.data.size = m * n
  /-- there is an element at every place of the shape -/
  get : ∀ i j, i < m → j < n → ∃ x, a.get? i j = some (.ok x)
  /-- there is none anywhere else -/
  get_outside : ∀ i j, ¬ (i < m ∧ j < n) → a.get? i j = some (.error (.outOfBounds i j m n))
  /-- an element that is replaced is replaced there and nowhere else -/
  set : ∀ i j v, i < m → j < n → ∃ b, (Change.set i j v).run? a = some (.ok (), b) ∧
    b.get? i j = some (.ok v) ∧ ∀ i' j', (i', j') ≠ (i, j) → b.get? i' j' = a.get? i' j'
  /-- outside the shape nothing is replaced -/
  set_outside : ∀ i j v, ¬ (i < m ∧ j < n) →
    (Change.set i j v).run? a = some (.error (.outOfBounds i j m n), a)
  /-- the same value can be put into every place -/
  fill : ∀ v, ∃ b, (Change.fill v).run? a = some (.ok (), b) ∧
    ∀ i j, i < m → j < n → b.get? i j = some (.ok v)
  /-- as many elements as there are can be loaded, and are taken row by row -/
  load : ∀ data, data.size = m * n → ∃ b, (Change.load data).run? a = some (.ok (), b) ∧
    b.data = data ∧ ∀ i j, i < m → j < n → b.get? i j = data[i * n + j]?.map .ok
  /-- no other number of elements can be loaded -/
  load_mismatch : ∀ data, data.size ≠ m * n →
    (Change.load data).run? a = some (.error (.sizeMismatch (m * n) data.size), a)
  /-- there is a transpose -/
  transpose : ∃ b, a.transpose? = some b
  /-- the transpose has as many rows as there are columns, and the other way round -/
  transpose_shape : ∀ b, a.transpose? = some b → b.rows = n ∧ b.cols = m
  /-- it has the element of row `i` and column `j` in row `j` and column `i` -/
  transpose_get : ∀ b, a.transpose? = some b → ∀ i j, i < m → j < n → b.get? j i = a.get? i j
  /-- the transpose of the transpose is the matrix -/
  transpose_transpose : ∀ b, a.transpose? = some b → b.transpose? = some a
  /-- a row lists its elements -/
  row : ∀ i, i < m → ∃ xs, a.row? i = some xs ∧
    (List.range n).map (a.get? i) = xs.map fun x => some (.ok x)
  /-- a column lists its elements, and is a row of the transpose -/
  column : ∀ j, j < n → ∃ xs, a.column? j = some (.ofList xs) ∧
    ((List.range m).map fun i => a.get? i j) = (xs.map fun x => some (.ok x)) ∧
    ∀ b, a.transpose? = some b → b.row? j = some xs

theorem Fits.rowMajor (h : a.Fits) (hroom : a.Storable) : RowMajor a.rows a.cols a where
  rows := rfl
  cols := rfl
  size := h.size
  get i j hi hj := ⟨_, get?_of_lt h hi hj⟩
  get_outside i j hnot := get?_of_not hnot
  set i j v hi hj := by
    refine ⟨a.replaced i j v, (set_run? h i j v).trans (congrArg _ (if_pos ⟨hi, hj⟩)), ?_, ?_⟩
    · rw [get?_of_lt (a := a.replaced i j v) h hi hj, h.entry_replaced_self hi hj]
    · exact fun i' j' hne => get?_replaced_ne h hj hne
  set_outside i j v hnot := (set_run? h i j v).trans (congrArg _ (if_neg hnot))
  fill v := by
    refine ⟨a.fill v, rfl, fun i j hi hj => ?_⟩
    rw [get?_of_lt (a := a.fill v) h hi hj, h.entry_fill hi hj]
  load data hsize := by
    refine ⟨a.reloaded data (hsize.trans (wrap_of_lt h).symm), (load_run? data a).trans
      (congrArg _ (dif_pos (hsize.trans h.size.symm))), rfl, fun i j hi hj => ?_⟩
    have hlt : i * a.cols + j < data.size := by
      rw [hsize, Nat.add_comm]
      exact place_lt hi hj
    rw [get?_of_lt (a := a.reloaded data _) h hi hj, Linear.getElem?_eq_nth hlt, Nat.add_comm]
    rfl
  load_mismatch data hsize := by
    rw [load_run?, dif_neg (h.size ▸ hsize), h.size]
  transpose := (transpose?_eq hroom).imp fun _ hb => hb.1
  transpose_shape b hb :=
    have hexchanged := exchanged_of_transpose? hroom hb
    ⟨hexchanged.rows, hexchanged.cols⟩
  transpose_get b hb i j hi hj := by
    have hexchanged := exchanged_of_transpose? hroom hb
    rw [get?_of_lt h hi hj, get?_of_lt (hexchanged.fits h) (hexchanged.rows.symm ▸ hj)
      (hexchanged.cols.symm ▸ hi), hexchanged.before i hi hi j hj]
  transpose_transpose b hb := transpose?_transpose? hroom hb
  row i hi := by
    refine ⟨_, row?_eq h hi, ?_⟩
    rw [List.map_map]
    exact List.map_congr_left fun j hj => get?_of_lt h hi (List.mem_range.mp hj)
  column j hj := by
    refine ⟨_, column?_eq h hj, ?_, fun b hb => row?_transpose? hroom hb hj⟩
    rw [List.map_map]
    exact List.map_congr_left fun i hi => get?_of_lt h (List.mem_range.mp hi) hj

/-- **A matrix keeps its elements row by row.** However a matrix of a shape that there is room for
was made and changed, it has the shape that it was made with, and does what a matrix of this shape
does. It starts with zeros everywhere, with ones in the diagonal and zeros everywhere else, or with
any elements of which there are as many as places. -/
theorem rowMajor_of_reached :
    (∀ m n a, m * n < lengthBound → Reached m n a → RowMajor m n a) ∧
      (∀ m n, m * n < lengthBound → ∃ a, zeros? m n = some a ∧ ∀ i j, i < m → j < n →
        a.get? i j = some (.ok .zero)) ∧
      (∀ n, n * n < lengthBound → ∃ a, identity? n = some a ∧ ∀ i j, i < n → j < n →
        a.get? i j = some (.ok (if i = j then .one else .zero))) ∧
      ∀ m n data, m * n < Decimal.sizeBound → data.size = m * n →
        ∃ a, ofArray m n data = .ok a ∧ a.data = data := by
  refine ⟨fun m n a hroom h => ?_, fun m n hroom => ?_, fun n hroom => ?_,
    fun m n data hfits h => ?_⟩
  · obtain ⟨rfl, rfl⟩ := h.shape hroom
    exact (Storable.fits hroom).rowMajor hroom
  · have hfits := lt_sizeBound hroom
    refine ⟨zeros m n, zeros?_eq hroom, fun i j hi hj => ?_⟩
    rw [get?_of_lt (a := zeros m n) hfits hi hj, entry_zeros hfits hi hj]
  · obtain ⟨a, ha, h⟩ := identity?_eq hroom
    have hfits := h.fits (lt_sizeBound hroom)
    refine ⟨a, ha, fun i j hi hj => ?_⟩
    rw [get?_of_lt hfits (h.rows.symm ▸ hi) (h.cols.symm ▸ hj), h.entry i hi j hj]
    simp only [hi, and_true]
  · have hsize : data.size = wrap (m * n) := h.trans (wrap_of_lt hfits).symm
    exact ⟨⟨m, n, data, hsize⟩, dif_pos hsize, rfl⟩

/-- Six elements are loaded into a matrix of two rows, of which the last one is replaced. A row that
does not exist is refused. The transpose has the new element in the last row. -/
theorem rowMajor_of_reached_loaded :
    ∃ a b, Reached 2 3 a ∧ a.transpose? = some b ∧ Reached 3 2 b ∧ b.data.size = 6 ∧
      b.transpose? = some a ∧
      (∃ xs, b.row? 2 = some xs ∧ (List.range 2).map (b.get? 2) = xs.map fun x => some (.ok x)) ∧
      b.row? 2 = some [.zero, .infinity] ∧
      (Change.set 0 2 .one).run? b = some (.error (.outOfBounds 0 2 3 2), b) := by
  let loaded : FloatMatrix := ⟨2, 3, #[.one, .nan, .zero, .negZero, .one, .one], rfl⟩
  let a : FloatMatrix := ⟨2, 3, #[.one, .nan, .zero, .negZero, .one, .infinity], rfl⟩
  let b : FloatMatrix := ⟨3, 2, #[.one, .negZero, .nan, .one, .zero, .infinity], rfl⟩
  have hloaded : Reached 2 3 loaded := .change (.zeros rfl) (c := .load loaded.data) rfl
  have hset : Reached 2 3 a := .change hloaded (c := .set 1 2 .infinity) rfl
  -- a row that does not exist is refused
  have hreached : Reached 2 3 a := .change hset (c := .set 2 0 .one) rfl
  have htranspose : a.transpose? = some b := by decide
  have h := rowMajor_of_reached.1 2 3 a (by decide) hreached
  have ht := rowMajor_of_reached.1 3 2 b (by decide) (hreached.transpose htranspose)
  exact ⟨a, b, hreached, htranspose, hreached.transpose htranspose, ht.size,
    h.transpose_transpose b htranspose, ht.row 2 (by decide), by decide,
    ht.set_outside 0 2 .one (by decide)⟩

/-- The number of rows times that of columns, both two to the thirty-second, is zero as a size. No
element at all is taken for as many as there are places, and then none is found in the first row and
the first column. The ones of the diagonal have no place. With half as many rows and columns the
places can be counted, but there is no room for so many zeros. -/
theorem places_missing :
    (∃ a, ofArray 4294967296 4294967296 #[] = .ok a ∧ Reached 4294967296 4294967296 a ∧
      a.data.size ≠ 4294967296 * 4294967296 ∧ a.get? 0 0 = none ∧
      (Change.set 0 0 .one).run? a = none) ∧
    identity? 4294967296 = none ∧ zeros? 2147483648 2147483648 = none ∧
    identity? 2147483648 = none := by
  let a : FloatMatrix := ⟨4294967296, 4294967296, #[], by decide⟩
  have ha : ofArray 4294967296 4294967296 #[] = .ok a := dif_pos (by decide)
  exact ⟨⟨a, ha, .ofArray ha, by decide, by decide, rfl⟩, rfl, rfl, rfl⟩

end Offload.Container.FloatMatrix
