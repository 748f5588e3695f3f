import Offload.Binary.Double
import Offload.Binary.Single

/-!
# Scalar types

The types that an element of a buffer or an argument of a kernel can be made of, each with the
Lean type of its values and a code for every value.

* `ScalarType.Value` — the values of a type.
* `ScalarType.encode`, `ScalarType.decode` — a value as a natural number below
  `256 ^ t.bytes`, and back. Negative integers are coded by their two's complement and
  floating-point numbers by their bits.

`decode_encode` and `encode_lt` say that the code is faithful and fits the width of the type.
-/

namespace Offload

/-- The type of a single value. -/
inductive ScalarType where
  /-- truth values -/
  | bool
  /-- signed 8-bit integers -/
  | int8
  /-- unsigned 8-bit integers -/
  | uint8
  /-- signed 16-bit integers -/
  | int16
  /-- unsigned 16-bit integers -/
  | uint16
  /-- signed 32-bit integers -/
  | int32
  /-- unsigned 32-bit integers -/
  | uint32
  /-- signed 64-bit integers -/
  | int64
  /-- unsigned 64-bit integers -/
  | uint64
  /-- single-precision numbers -/
  | float32
  /-- double-precision numbers -/
  | float64
deriving DecidableEq, Inhabited

namespace ScalarType

/-- Every scalar type, in their order. -/
def all : List ScalarType :=
  [bool, int8, uint8, int16, uint16, int32, uint32, int64, uint64, float32, float64]

/-- The place of a type in the order of types. -/
def rank : ScalarType → Nat
  | bool => 0
  | int8 => 1
  | uint8 => 2
  | int16 => 3
  | uint16 => 4
  | int32 => 5
  | uint32 => 6
  | int64 => 7
  | uint64 => 8
  | float32 => 9
  | float64 => 10

/-- The type at a place of the order. -/
def ofRank? (n : Nat) : Option ScalarType :=
  all[n]?

/-- The width of a value in bytes. -/
def bytes : ScalarType → Nat
  | bool | int8 | uint8 => 1
  | int16 | uint16 => 2
  | int32 | uint32 | float32 => 4
  | int64 | uint64 | float64 => 8

/-- The short name. -/
def name : ScalarType → String
  | bool => "bool"
  | int8 => "i8"
  | uint8 => "u8"
  | int16 => "i16"
  | uint16 => "u16"
  | int32 => "i32"
  | uint32 => "u32"
  | int64 => "i64"
  | uint64 => "u64"
  | float32 => "f32"
  | float64 => "f64"

/-- The name written out. -/
def longName : ScalarType → String
  | bool => "Bool"
  | int8 => "Int8"
  | uint8 => "UInt8"
  | int16 => "Int16"
  | uint16 => "UInt16"
  | int32 => "Int32"
  | uint32 => "UInt32"
  | int64 => "Int64"
  | uint64 => "UInt64"
  | float32 => "Float32"
  | float64 => "Float64"

/-- The type of a short name. -/
def ofName? (s : String) : Option ScalarType :=
  all.find? (·.name == s)

/-- Whether values are integers that can be negative. -/
def isSigned : ScalarType → Bool
  | int8 | int16 | int32 | int64 => true
  | _ => false

/-- Whether values are integers that cannot be negative. -/
def isUnsigned : ScalarType → Bool
  | uint8 | uint16 | uint32 | uint64 => true
  | _ => false

/-- Whether values are integers. -/
def isInt (t : ScalarType) : Bool :=
  t.isSigned || t.isUnsigned

/-- Whether values are floating-point numbers. -/
def isFloat : ScalarType → Bool
  | float32 | float64 => true
  | _ => false

/-- Every rank belongs to the type that it came from. -/
theorem ofRank?_rank (t : ScalarType) : ofRank? t.rank = some t := by
  cases t <;> rfl

/-- Every short name belongs to the type that it came from. -/
theorem ofName?_name (t : ScalarType) : ofName? t.name = some t := by
  cases t <;> decide

/-! ### Values and their codes -/

/-- The values of a type. -/
abbrev Value : ScalarType → Type
  | bool => Bool
  | int8 => Int8
  | uint8 => UInt8
  | int16 => Int16
  | uint16 => UInt16
  | int32 => Int32
  | uint32 => UInt32
  | int64 => Int64
  | uint64 => UInt64
  | float32 => Single
  | float64 => Double

instance instDecidableEqValue : (t : ScalarType) → DecidableEq t.Value
  | bool => inferInstanceAs (DecidableEq Bool)
  | int8 => inferInstanceAs (DecidableEq Int8)
  | uint8 => inferInstanceAs (DecidableEq UInt8)
  | int16 => inferInstanceAs (DecidableEq Int16)
  | uint16 => inferInstanceAs (DecidableEq UInt16)
  | int32 => inferInstanceAs (DecidableEq Int32)
  | uint32 => inferInstanceAs (DecidableEq UInt32)
  | int64 => inferInstanceAs (DecidableEq Int64)
  | uint64 => inferInstanceAs (DecidableEq UInt64)
  | float32 => inferInstanceAs (DecidableEq Single)
  | float64 => inferInstanceAs (DecidableEq Double)

/-- The code of a value. -/
def encode : (t : ScalarType) → t.Value → Nat
  | bool, v => v.toNat
  | int8, v => v.toUInt8.toNat
  | uint8, v => v.toNat
  | int16, v => v.toUInt16.toNat
  | uint16, v => v.toNat
  | int32, v => v.toUInt32.toNat
  | uint32, v => v.toNat
  | int64, v => v.toUInt64.toNat
  | uint64, v => v.toNat
  | float32, v => v.bits.toNat
  | float64, v => v.bits.toNat

/-- The value of a code. A truth value is true when its code is not zero. -/
def decode : (t : ScalarType) → Nat → t.Value
  | bool, n => n != 0
  | int8, n => n.toUInt8.toInt8
  | uint8, n => n.toUInt8
  | int16, n => n.toUInt16.toInt16
  | uint16, n => n.toUInt16
  | int32, n => n.toUInt32.toInt32
  | uint32, n => n.toUInt32
  | int64, n => n.toUInt64.toInt64
  | uint64, n => n.toUInt64
  | float32, n => ⟨n.toUInt32⟩
  | float64, n => ⟨n.toUInt64⟩

/-- **Faithful codes.** Decoding gets back the value that was encoded. -/
theorem decode_encode (t : ScalarType) (v : t.Value) : t.decode (t.encode v) = v := by
  cases t with
  | bool => cases v <;> rfl
  | _ => simp [decode, encode]

/-- A code fits the width of its type. -/
theorem encode_lt (t : ScalarType) (v : t.Value) : t.encode v < Nat.pow 256 t.bytes := by
  cases t <;> simp only [encode, bytes]
  · cases v <;> decide
  · exact v.toUInt8.toNat_lt
  · exact UInt8.toNat_lt v
  · exact v.toUInt16.toNat_lt
  · exact UInt16.toNat_lt v
  · exact v.toUInt32.toNat_lt
  · exact UInt32.toNat_lt v
  · exact v.toUInt64.toNat_lt
  · exact UInt64.toNat_lt v
  · exact v.bits.toNat_lt
  · exact v.bits.toNat_lt

/-- Outside the truth values, encoding gets back every code that fits the width. -/
theorem encode_decode {t : ScalarType} (ht : t ≠ bool) {n : Nat} (hn : n < Nat.pow 256 t.bytes) :
    t.encode (t.decode n) = n := by
  cases t with
  | bool => exact absurd rfl ht
  | _ =>
    simp only [bytes] at hn
    simp [decode, encode]
    omega

/-! ### Arithmetic

Integers wrap around at the width of their type. -/

/-- The sum of two values; of truth values, whether one of them is true. -/
def add : (t : ScalarType) → t.Value → t.Value → t.Value
  | bool, a, b => a || b
  | int8, a, b => a + b
  | uint8, a, b => a + b
  | int16, a, b => a + b
  | uint16, a, b => a + b
  | int32, a, b => a + b
  | uint32, a, b => a + b
  | int64, a, b => a + b
  | uint64, a, b => a + b
  | float32, a, b => a + b
  | float64, a, b => a + b

/-- The product of two values; of truth values, whether both are true. -/
def mul : (t : ScalarType) → t.Value → t.Value → t.Value
  | bool, a, b => a && b
  | int8, a, b => a * b
  | uint8, a, b => a * b
  | int16, a, b => a * b
  | uint16, a, b => a * b
  | int32, a, b => a * b
  | uint32, a, b => a * b
  | int64, a, b => a * b
  | uint64, a, b => a * b
  | float32, a, b => a * b
  | float64, a, b => a * b

/-- The value for a count: integers wrap around, and floating-point numbers are the nearest
to it. -/
def ofCount : (t : ScalarType) → Nat → t.Value
  | float32, n => Single.ofCount n
  | float64, n => Double.ofCount n
  | t, n => t.decode n

end ScalarType

end Offload
