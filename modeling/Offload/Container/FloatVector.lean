import Offload.Accuracy.Summary
import Offload.Container.Float4

/-!
# Vectors of single-precision numbers

An index times four, like every product of sizes, is a size again: `wrap` leaves its lowest 64 bits.
A vector of `lengthBound` zeros or more is not made.
-/

namespace Offload.Container

/-- What is left of a number in a size: its lowest 64 bits. -/
def wrap (n : Nat) : Nat := n % Decimal.sizeBound

theorem wrap_of_lt {n : Nat} (h : n < Decimal.sizeBound) : wrap n = n := Nat.mod_eq_of_lt h

theorem wrap_lt (n : Nat) : wrap n < Decimal.sizeBound := Nat.mod_lt n (by decide)

/-- The least number of elements that there is no room for: each takes four bytes, and a block of
memory has less than half as many bytes as there are sizes. -/
def lengthBound : Nat := Nat.pow 2 61

/-- A vector of single-precision numbers. -/
structure FloatVector where
  /-- the elements in order -/
  data : Array Single
deriving DecidableEq, Inhabited

namespace FloatVector

/-- The vector of `len` zeros; `none` if there is no room for so many. -/
def zeros? (len : Nat) : Option FloatVector :=
  if len < lengthBound then some ⟨Array.replicate len Single.zero⟩ else none

/-- The vector of the elements of a list. -/
def ofList (xs : List Single) : FloatVector := ⟨xs.toArray⟩

/-- The elements as a list. -/
def toList (v : FloatVector) : List Single := v.data.toList

/-- The number of elements. -/
def length (v : FloatVector) : Nat := v.data.size

/-- The element at an index, if there is one. -/
def get? (v : FloatVector) (i : Nat) : Option Single := v.data[i]?

/-- The vector with one element replaced, if there is such an element. -/
def set? (v : FloatVector) (i : Nat) (value : Single) : Option FloatVector :=
  if h : i < v.data.size then some ⟨v.data.set i value⟩ else none

/-- The four elements from `4 * i` on, if there are so many. -/
def float4? (v : FloatVector) (i : Nat) : Option Float4 := Float4.load? v.data (wrap (i * 4))

/-- The sum of the elements. -/
def sum (v : FloatVector) : Single := Single.sum v.toList

/-- The sum of the products of paired elements. -/
def dot (v w : FloatVector) : Single := Single.dot v.toList w.toList

/-- The same value in every place. -/
def fill (v : FloatVector) (value : Single) : FloatVector := ⟨v.data.map fun _ => value⟩

/-- The vector with all elements replaced. -/
def load (v : FloatVector) (data : Array Single) : Except ShapeError FloatVector :=
  (Container.load v.data data).map FloatVector.mk

/-- How far the elements are from those of a reference. -/
def accuracy (v reference : FloatVector) : Accuracy.Summary :=
  Accuracy.Summary.compare v.toList reference.toList

instance : BEq FloatVector := ⟨fun a b => a.toList == b.toList⟩

/-- The elements in brackets, with three decimal places. -/
def text (v : FloatVector) : String :=
  "[" ++ String.intercalate ", " (v.toList.map (Single.fixed 3)) ++ "]"

end FloatVector

end Offload.Container
