import Offload.Binary.Single

/-!
# Errors of containers
-/

namespace Offload.Container

/-- Why a container refuses an operation. -/
inductive ShapeError where
  /-- the data does not have as many elements as the container -/
  | sizeMismatch (expected actual : Nat)
  /-- the row or the column lies outside the shape -/
  | outOfBounds (row col rows cols : Nat)
deriving DecidableEq

/-- A word for the kind of error. -/
def ShapeError.kind : ShapeError → String
  | sizeMismatch _ _ => "SizeMismatch"
  | outOfBounds _ _ _ _ => "OutOfBounds"

/-- What is said about the error. -/
def ShapeError.message : ShapeError → String
  | sizeMismatch expected actual =>
    "size mismatch: expected " ++ Decimal.text expected ++ " elements, got " ++ Decimal.text actual
  | outOfBounds row col rows cols =>
    "index (" ++ Decimal.text row ++ ", " ++ Decimal.text col ++ ") out of bounds for " ++
      Decimal.text rows ++ "x" ++ Decimal.text cols ++ " matrix"

/-- Replace all elements by as many others. -/
def load (old data : Array Single) : Except ShapeError (Array Single) :=
  if data.size = old.size then .ok data else .error (.sizeMismatch old.size data.size)

end Offload.Container
