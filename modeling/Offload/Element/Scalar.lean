import Offload.Element.Type

/-!
# Scalars

A scalar is a single value together with its type. It is what a kernel is given for a
parameter that is no buffer.

* `Scalar.get?` — the value, for a caller who asks for the right type.
* `Scalar.asInt?` — an integer widened to the range of 64-bit integers.
* `Scalar.text` — the value alone, and `Scalar.description` — the value with its type.
-/

namespace Offload

/-- A value together with its type. -/
structure Scalar where
  /-- the type of the value -/
  type : ScalarType
  /-- the value itself -/
  value : type.Value

namespace Scalar

/-- The bytes of the value. -/
def bytes (s : Scalar) : List UInt8 :=
  Bytes.ofNat s.type.bytes (s.type.encode s.value)

/-- The value as one of type `t`, where that is the type of the scalar. -/
def get? (s : Scalar) (t : ElementType) : Option t.Value :=
  if h : ElementType.scalar s.type = t then some (h ▸ s.value) else none

/-- The least integer above the range of signed 64-bit integers. -/
def intBound : Nat := Nat.pow 2 63

/-- The value as an integer; `none` for a value that is no integer or too large. -/
def asInt? : Scalar → Option Int
  | ⟨.int8, v⟩ => some v.toInt
  | ⟨.int16, v⟩ => some v.toInt
  | ⟨.int32, v⟩ => some v.toInt
  | ⟨.int64, v⟩ => some v.toInt
  | ⟨.uint8, v⟩ => some v.toNat
  | ⟨.uint16, v⟩ => some v.toNat
  | ⟨.uint32, v⟩ => some v.toNat
  | ⟨.uint64, v⟩ => if v.toNat < intBound then some v.toNat else none
  | ⟨.bool, _⟩ | ⟨.float32, _⟩ | ⟨.float64, _⟩ => none

/-- The value as text. -/
def text : Scalar → String
  | ⟨.bool, v⟩ => if v then "true" else "false"
  | ⟨.int8, v⟩ => Decimal.intText v.toInt
  | ⟨.int16, v⟩ => Decimal.intText v.toInt
  | ⟨.int32, v⟩ => Decimal.intText v.toInt
  | ⟨.int64, v⟩ => Decimal.intText v.toInt
  | ⟨.uint8, v⟩ => Decimal.text v.toNat
  | ⟨.uint16, v⟩ => Decimal.text v.toNat
  | ⟨.uint32, v⟩ => Decimal.text v.toNat
  | ⟨.uint64, v⟩ => Decimal.text v.toNat
  | ⟨.float32, v⟩ => v.text
  | ⟨.float64, v⟩ => v.text

/-- The value as text with the name of its type. -/
def description (s : Scalar) : String :=
  s.text ++ ":" ++ s.type.name

instance : DecidableEq Scalar := fun a b =>
  if h : a.type = b.type then
    if hv : h ▸ a.value = b.value then
      isTrue (by cases a; cases b; cases h; cases hv; rfl)
    else isFalse (by rintro rfl; exact hv rfl)
  else isFalse (by rintro rfl; exact h rfl)

end Scalar

end Offload
