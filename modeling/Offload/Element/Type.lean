import Offload.Element.Bytes
import Offload.Element.ScalarType

/-!
# Element types

The element of a buffer is a single value or a short vector of values of one type. This module
says how elements are laid out in bytes: the lanes of a vector one after the other, each the
least significant byte first.

* `ElementType.Value` — the elements of a type.
* `ElementType.toBytes`, `ElementType.valueAt` — an element as bytes, and the element that
  starts at a byte of an array.
* `ElementType.bytesOf`, `ElementType.valuesOf` — the same for a run of elements.
-/

namespace Offload

/-- The type of an element. -/
inductive ElementType where
  /-- a single value -/
  | scalar (base : ScalarType)
  /-- `count` values side by side -/
  | vector (base : ScalarType) (count : Nat)
deriving DecidableEq, Inhabited

namespace ElementType

/-- Four single-precision lanes. -/
def float4 : ElementType := .vector .float32 4

/-- The type of a lane. -/
def base : ElementType → ScalarType
  | scalar t => t
  | vector t _ => t

/-- The number of lanes. -/
def count : ElementType → Nat
  | scalar _ => 1
  | vector _ n => n

/-- The width of an element in bytes. -/
def bytes : ElementType → Nat
  | scalar t => t.bytes
  | vector t n => t.bytes * n

/-- The scalar type, where the element is a single value. -/
def scalar? : ElementType → Option ScalarType
  | scalar t => some t
  | vector _ _ => none

/-- Whether the element is a vector. -/
def isVector : ElementType → Bool
  | scalar _ => false
  | vector _ _ => true

/-- The name: that of the scalar type, followed by the number of lanes of a vector. -/
def name : ElementType → String
  | scalar t => t.name
  | vector t n => t.name ++ "x" ++ Decimal.text n

/-- The structure of the type written out. -/
def description : ElementType → String
  | scalar t => "Scalar(" ++ t.longName ++ ")"
  | vector t n =>
    "Vector \x7b scalar: " ++ t.longName ++ ", count: " ++ Decimal.text n ++ " \x7d"

/-- Why a type has no vector of a length. -/
inductive VectorError where
  /-- its elements are vectors already -/
  | alreadyVector
deriving DecidableEq

/-- What is said about the error. -/
def VectorError.message : VectorError → String
  | alreadyVector => "Cannot vectorize an already vectorized type"

/-- The type of vectors of `n` elements. One element alone makes no vector, and vectors of
vectors do not exist. -/
def vec (t : ElementType) (n : Nat) : Except VectorError ElementType :=
  if n = 1 then .ok t
  else match t with
    | scalar s => .ok (.vector s n)
    | vector _ _ => .error .alreadyVector

/-- Reads the name of a type: a scalar name, or a scalar name, `x` and a number of lanes. -/
def ofName? (s : String) : Option ElementType :=
  let head := s.toList.takeWhile (· != 'x')
  let tail := s.toList.dropWhile (· != 'x')
  (ScalarType.ofName? (String.ofList head)).bind fun t =>
    match tail with
    | [] => some (.scalar t)
    | _ :: ds => (Decimal.ofDigits? ds).bind fun n => ((scalar t).vec n).toOption

/-! ### Elements and their bytes -/

/-- The elements of a type. -/
abbrev Value : ElementType → Type
  | scalar t => t.Value
  | vector t n => Vector t.Value n

instance instDecidableEqValue : (t : ElementType) → DecidableEq t.Value
  | scalar t => inferInstanceAs (DecidableEq t.Value)
  | vector t n => inferInstanceAs (DecidableEq (Vector t.Value n))

/-- The bytes of an element. -/
def toBytes : (t : ElementType) → t.Value → List UInt8
  | scalar t, v => Bytes.ofNat t.bytes (t.encode v)
  | vector t _, v => v.toList.flatMap fun lane => Bytes.ofNat t.bytes (t.encode lane)

/-- The element whose bytes start at `offset`. -/
def valueAt : (t : ElementType) → Bytes → (offset : Nat) → t.Value
  | scalar t, b, offset => t.decode (b.natAt t.bytes offset)
  | vector t n, b, offset =>
    Vector.ofFn fun i : Fin n => t.decode (b.natAt t.bytes (offset + i.val * t.bytes))

/-- The bytes of a run of elements. -/
def bytesOf (t : ElementType) (vs : List t.Value) : Bytes :=
  (vs.flatMap t.toBytes).toArray

/-- The first `n` elements that an array of bytes holds. -/
def valuesOf (t : ElementType) (b : Bytes) (n : Nat) : List t.Value :=
  (List.range n).map fun i => t.valueAt b (i * t.bytes)

/-- The element that all-zero bytes stand for. -/
def zero (t : ElementType) : t.Value :=
  t.valueAt #[] 0

@[simp] theorem length_toBytes (t : ElementType) (v : t.Value) :
    (t.toBytes v).length = t.bytes := by
  cases t with
  | scalar t => simp [toBytes, bytes]
  | vector t n => simp [toBytes, bytes, List.length_flatMap, List.map_const', Nat.mul_comm]

/-- A run of elements takes up the width of an element for each of them. -/
@[simp] theorem size_bytesOf (t : ElementType) (vs : List t.Value) :
    (t.bytesOf vs).size = t.bytes * vs.length := by
  induction vs with
  | nil => simp [bytesOf]
  | cons v vs ih =>
    simp only [bytesOf, List.size_toArray] at ih
    simp [bytesOf, ih, Nat.mul_add, Nat.add_comm]

/-! ### Arithmetic, lane by lane -/

/-- The sum of two elements. -/
def add : (t : ElementType) → t.Value → t.Value → t.Value
  | scalar t, a, b => t.add a b
  | vector t _, a, b => Vector.zipWith t.add a b

/-- The product of two elements. -/
def mul : (t : ElementType) → t.Value → t.Value → t.Value
  | scalar t, a, b => t.mul a b
  | vector t _, a, b => Vector.zipWith t.mul a b

/-- The element for a count, the same in every lane. -/
def ofCount : (t : ElementType) → Nat → t.Value
  | scalar t, n => t.ofCount n
  | vector t k, n => Vector.replicate k (t.ofCount n)

end ElementType

/-- An element together with its type. -/
structure Element where
  /-- the type of the element -/
  type : ElementType
  /-- the element itself -/
  value : type.Value

end Offload
