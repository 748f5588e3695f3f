import Offload.Container.FloatVector

/-!
# Matrices of four rows and four columns
-/

namespace Offload.Container

/-- A four-by-four matrix of single-precision numbers, row by row. -/
structure Matrix4 where
  /-- the sixteen elements -/
  data : Vector Single 16
deriving DecidableEq

namespace Matrix4

/-- A place outside the matrix. -/
structure OutOfBounds where
  /-- row asked for -/
  row : Nat
  /-- column asked for -/
  col : Nat

/-- What is said about the place. -/
def OutOfBounds.message (e : OutOfBounds) : String :=
  "index (" ++ Decimal.text e.row ++ ", " ++ Decimal.text e.col ++ ") out of bounds for 4x4 matrix"

/-- The element in row `i` and column `j`. -/
def entry (a : Matrix4) (i j : Fin 4) : Single :=
  a.data[j.val + i.val * 4]

/-- The matrix of the elements that a rule gives. -/
def ofRule (f : Fin 4 → Fin 4 → Single) : Matrix4 :=
  ⟨Vector.ofFn fun k : Fin 16 => f ⟨k.val / 4, by omega⟩ ⟨k.val % 4, by omega⟩⟩

/-- The matrix of zeros. -/
def zeros : Matrix4 := ofRule fun _ _ => Single.zero

/-- The matrix with ones in the diagonal. -/
def identity : Matrix4 := ofRule fun i j => if i = j then Single.one else Single.zero

/-- The matrix with the given elements, row by row. -/
def ofArray (data : Array Single) : Except ShapeError Matrix4 :=
  if h : data.size = 16 then .ok ⟨⟨data, h⟩⟩ else .error (.sizeMismatch 16 data.size)

/-- A row and a column number as a place of the matrix. -/
def place (i j : Nat) : Except OutOfBounds (Fin 4 × Fin 4) :=
  if h : i < 4 ∧ j < 4 then .ok (⟨i, h.1⟩, ⟨j, h.2⟩) else .error ⟨i, j⟩

/-- The element in row `i` and column `j`. -/
def get (a : Matrix4) (i j : Nat) : Except OutOfBounds Single :=
  (place i j).map fun (i, j) => a.entry i j

/-- The matrix with the element in row `i` and column `j` replaced. -/
def set (a : Matrix4) (i j : Nat) (value : Single) : Except OutOfBounds Matrix4 :=
  (place i j).map fun (i, j) => ⟨a.data.set (j.val + i.val * 4) value⟩

/-- The lanes of a row, if there is such a row. -/
def row? (a : Matrix4) (i : Nat) : Option Float4 :=
  Float4.load? a.data.toArray (i * 4)

/-- The matrix with a row replaced, if there is such a row. -/
def setRow? (a : Matrix4) (i : Nat) (row : Float4) : Option Matrix4 :=
  if i < 4 then some (ofRule fun r c => if r.val = i then row.lanes[c] else a.entry r c) else none

/-- The lanes of a column. -/
def column (a : Matrix4) (j : Nat) : Except OutOfBounds Float4 := do
  return Float4.mk4 (← a.get 0 j) (← a.get 1 j) (← a.get 2 j) (← a.get 3 j)

/-- The lanes of the diagonal. -/
def diagonal (a : Matrix4) : Float4 :=
  Float4.mk4 (a.entry 0 0) (a.entry 1 1) (a.entry 2 2) (a.entry 3 3)

/-- The matrix with rows and columns exchanged. -/
def transpose (a : Matrix4) : Matrix4 := ofRule fun i j => a.entry j i

/-- The lanes of a row of the matrix. -/
def rowLanes (a : Matrix4) (i : Fin 4) : Float4 := ⟨Vector.ofFn fun j => a.entry i j⟩

/-- The lanes of a column of the matrix. -/
def columnLanes (a : Matrix4) (j : Fin 4) : Float4 := ⟨Vector.ofFn fun i => a.entry i j⟩

/-- The product of two matrices: the sums of the products of rows and columns. -/
def mul (a b : Matrix4) : Matrix4 :=
  ofRule fun i j => (a.rowLanes i).dot (b.columnLanes j)

/-- The same value in every place. -/
def fill (value : Single) : Matrix4 := ofRule fun _ _ => value

/-- The elements, row by row. -/
def toList (a : Matrix4) : List Single := a.data.toList

/-- How far the elements are from those of a reference. -/
def accuracy (a reference : Matrix4) : Accuracy.Summary :=
  Accuracy.Summary.compare a.toList reference.toList

instance : BEq Matrix4 := ⟨fun a b => a.toList == b.toList⟩

/-- A line with the shape and a line for every row, with three decimal places. -/
def text (a : Matrix4) : String :=
  let line (i : Fin 4) := String.intercalate " " ((a.rowLanes i).toList.map (Single.fixed 3))
  String.intercalate "\n" ("MatrixFloat <4 x 4>" :: (List.finRange 4).map line)

end Matrix4

end Offload.Container
