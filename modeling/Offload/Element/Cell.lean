import Offload.Element.Scalar

/-!
# Cells

Whatever its type, a scalar is kept in a cell of eight bytes: those of its value, the least
significant first, and zeros behind them.

* `Cell.ofValue`, `Cell.ofBool` — the cell of a value.
* `Cell.get?`, `Cell.asInt?`, `Cell.text` — a cell as a value, as an integer and as text.
* `Scalar.cell` — the cell that a scalar is kept in.
-/

namespace Offload

/-- Eight bytes and the type of the value that they hold. -/
structure Cell where
  /-- the type of the value -/
  type : ScalarType
  /-- the bytes of the value and zeros behind them -/
  bytes : Vector UInt8 8
deriving DecidableEq

namespace Cell

/-- The cell of a value: its bytes are copied to the front of a cell of zeros. -/
def ofValue (t : ScalarType) (v : t.Value) : Cell :=
  ⟨t, ⟨(Bytes.zeros 8).overwrite 0 (Bytes.ofNat t.bytes (t.encode v)), by simp⟩⟩

/-- The cell of a truth value, whose first byte is zero or one. -/
def ofBool (v : Bool) : Cell :=
  ⟨.bool, (Vector.replicate 8 0).set 0 v.toUInt8⟩

/-- What the bytes hold when they are taken for an element of type `t`. -/
def read (c : Cell) (t : ElementType) : t.Value :=
  t.valueAt c.bytes.toArray 0

/-- The value as one of type `t`, where that is the type of the cell. -/
def get? (c : Cell) (t : ElementType) : Option t.Value :=
  if t = .scalar c.type then some (c.read t) else none

/-- The value as an integer; `none` for a value that is no integer or too large. -/
def asInt? (c : Cell) : Option Int :=
  match c.type with
  | .int8 => (c.get? (.scalar .int8)).map Int8.toInt
  | .int16 => (c.get? (.scalar .int16)).map Int16.toInt
  | .int32 => (c.get? (.scalar .int32)).map Int32.toInt
  | .int64 => (c.get? (.scalar .int64)).map Int64.toInt
  | .uint8 => (c.get? (.scalar .uint8)).map fun v : UInt8 => v.toNat
  | .uint16 => (c.get? (.scalar .uint16)).map fun v : UInt16 => v.toNat
  | .uint32 => (c.get? (.scalar .uint32)).map fun v : UInt32 => v.toNat
  | .uint64 => (c.get? (.scalar .uint64)).bind fun v : UInt64 =>
    if v.toNat < Scalar.intBound then some v.toNat else none
  | .bool | .float32 | .float64 => none

/-- The bytes that the value takes up. -/
def content (c : Cell) : List UInt8 :=
  c.bytes.toList.take c.type.bytes

/-- The value as text. An integer that is too large to be signed is unsigned. -/
def text (c : Cell) : String :=
  match c.type with
  | .bool => if c.bytes[0] ≠ 0 then "true" else "false"
  | .float32 => Single.text (c.read (.scalar .float32))
  | .float64 => Double.text (c.read (.scalar .float64))
  | _ => match c.asInt? with
    | some x => Decimal.intText x
    | none => Decimal.text (UInt64.toNat (c.read (.scalar .uint64)))

end Cell

/-- The cell that a scalar is kept in. -/
def Scalar.cell (s : Scalar) : Cell :=
  match s with
  | ⟨.bool, v⟩ => .ofBool v
  | ⟨t, v⟩ => .ofValue t v

end Offload
