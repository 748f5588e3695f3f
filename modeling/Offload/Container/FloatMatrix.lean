import Offload.Container.FloatVector

/-!
# Matrices of single-precision numbers

A matrix keeps its elements row by row in one array, so that the element in row `i` and
column `j` stands at `j + i * cols`.

Products and sums of sizes are sizes again (`wrap`). Where the number of rows times that of columns
does not fit, the array is shorter than the shape says, and an access within the shape can look for
a place that the array does not have: there is no result then. There is none either where
`lengthBound` zeros or more would have to be made.
-/

namespace Offload.Container

/-- Does something with each of the `n` numbers from `first` on, for as long as it can be done. -/
def walk {α : Type} (f : Nat → α → Option α) : (n first : Nat) → α → Option α
  | 0, _, a => some a
  | n + 1, first, a => (f first a).bind (walk f n (first + 1))

/-- What every turn preserves is preserved, and if every turn can be taken, all are. -/
theorem walk_invariant {α : Type} {f : Nat → α → Option α} {P : Nat → α → Prop} {n first : Nat}
    {a : α} (h : P first a) (hstep : ∀ k a, first ≤ k → k < first + n → P k a →
      ∃ b, f k a = some b ∧ P (k + 1) b) :
    ∃ b, walk f n first a = some b ∧ P (first + n) b := by
  induction n generalizing first a with
  | zero => exact ⟨a, rfl, h⟩
  | succ n ih =>
    obtain ⟨b, hb, hb'⟩ := hstep first a (Nat.le_refl _) (by omega) h
    obtain ⟨c, hc, hc'⟩ := ih hb' fun k a hle hlt => hstep k a (by omega) (by omega)
    refine ⟨c, ?_, by rwa [Nat.add_right_comm] at hc'⟩
    rw [walk, hb, Option.bind_some, hc]

/-- A matrix of single-precision numbers. -/
structure FloatMatrix where
  /-- number of rows -/
  rows : Nat
  /-- number of columns -/
  cols : Nat
  /-- the elements, row by row -/
  data : Array Single
  /-- there are as many elements as places, as far as a size can tell -/
  size_eq : data.size = wrap (rows * cols)
deriving DecidableEq

namespace FloatMatrix

/-- The matrix of zeros. -/
def zeros (rows cols : Nat) : FloatMatrix :=
  ⟨rows, cols, Array.replicate (wrap (rows * cols)) Single.zero, by simp⟩

/-- The matrix of zeros; `none` if there is no room for so many. -/
def zeros? (rows cols : Nat) : Option FloatMatrix :=
  if wrap (rows * cols) < lengthBound then some (zeros rows cols) else none

/-- The matrix with the given elements, row by row. -/
def ofArray (rows cols : Nat) (data : Array Single) : Except ShapeError FloatMatrix :=
  if h : data.size = wrap (rows * cols) then .ok ⟨rows, cols, data, h⟩
  else .error (.sizeMismatch (wrap (rows * cols)) data.size)

/-- The place of the element in row `i` and column `j`. -/
def place (a : FloatMatrix) (i j : Nat) : Nat := wrap (j + i * a.cols)

/-- The matrix with another element at a place, if there is such a place. -/
def put? (a : FloatMatrix) (place : Nat) (value : Single) : Option FloatMatrix :=
  if h : place < a.data.size then
    some { a with
      data := a.data.set place value
      size_eq := by rw [Array.size_set, a.size_eq] }
  else none

/-- The square matrix with ones in the diagonal, which are `n + 1` places apart; `none` where one
would stand beyond the last place, or there is no room for the elements. -/
def identity? (n : Nat) : Option FloatMatrix :=
  (zeros? n n).bind (walk (fun i a => a.put? (wrap (i * (n + 1))) Single.one) n 0)

/-- The element in row `i` and column `j`; `none` where it would stand beyond the last place. -/
def get? (a : FloatMatrix) (i j : Nat) : Option (Except ShapeError Single) :=
  if i < a.rows ∧ j < a.cols then a.data[a.place i j]?.map .ok
  else some (.error (.outOfBounds i j a.rows a.cols))

/-- The matrix with the element in row `i` and column `j` replaced; `none` where it would stand
beyond the last place. -/
def set? (a : FloatMatrix) (i j : Nat) (value : Single) : Option (Except ShapeError FloatMatrix) :=
  if i < a.rows ∧ j < a.cols then (a.put? (a.place i j) value).map .ok
  else some (.error (.outOfBounds i j a.rows a.cols))

/-- The elements of a row; `none` where they would lie beyond the last place. -/
def row? (a : FloatMatrix) (i : Nat) : Option (List Single) :=
  let start := wrap (i * a.cols)
  let stop := wrap ((i + 1) * a.cols)
  if start ≤ stop ∧ stop ≤ a.data.size then some (a.data.extract start stop).toList else none

/-- The elements of a column; `none` where one would stand beyond the last place. -/
def column? (a : FloatMatrix) (j : Nat) : Option FloatVector :=
  ((List.range a.rows).mapM fun i => a.data[a.place i j]?).map FloatVector.ofList

/-- The matrix with rows and columns exchanged, element by element; `none` where one stands or
would stand beyond the last place, or there is no room for the elements. -/
def transpose? (a : FloatMatrix) : Option FloatMatrix :=
  (zeros? a.cols a.rows).bind
    (walk (fun i => walk (fun j b => a.data[a.place i j]?.bind (b.put? (wrap (i + j * a.rows))))
      a.cols 0) a.rows 0)

/-- The product with a vector of as many elements as there are columns; `none` where a row would
lie beyond the last place. -/
def mulVec? (a : FloatMatrix) (x : FloatVector) : Option (Except ShapeError FloatVector) :=
  if x.length = a.cols then
    ((List.range a.rows).mapM fun i => (a.row? i).map (Single.dot · x.toList)).map fun y =>
      .ok (.ofList y)
  else some (.error (.sizeMismatch a.cols x.length))

/-- The same value in every place. -/
def fill (a : FloatMatrix) (value : Single) : FloatMatrix :=
  { a with data := a.data.map fun _ => value, size_eq := by simp [a.size_eq] }

/-- The matrix with all elements replaced. -/
def load (a : FloatMatrix) (data : Array Single) : Except ShapeError FloatMatrix :=
  if h : data.size = a.data.size then .ok { a with data, size_eq := h.trans a.size_eq }
  else .error (.sizeMismatch a.data.size data.size)

/-- How far the elements are from those of a reference of the same shape. -/
def accuracy (a reference : FloatMatrix) : Accuracy.Summary :=
  if a.rows = reference.rows ∧ a.cols = reference.cols then
    Accuracy.Summary.compare a.data.toList reference.data.toList
  else Accuracy.Summary.mismatch

instance : BEq FloatMatrix :=
  ⟨fun a b => a.rows == b.rows && a.cols == b.cols && a.data.toList == b.data.toList⟩

/-- A line for every row, with three decimal places; `none` where a row would lie beyond the last
place. -/
def text? (a : FloatMatrix) : Option String :=
  ((List.range a.rows).mapM a.row?).map fun rows =>
    String.intercalate "\n" (rows.map fun row =>
      String.intercalate " " (row.map (Single.fixed 3)))

end FloatMatrix

end Offload.Container
