import Offload.Binary.Fixed
import Offload.Binary.Shortest

/-!
# Double-precision numbers

A double-precision number is kept as its 64 bits, for the same reason as a single-precision
one: storage keeps every bit pattern, and only arithmetic on numbers goes through the machine's.
-/

namespace Offload

/-- A double-precision number, as its bits. -/
structure Double where
  /-- sign, exponent and fraction -/
  bits : UInt64
deriving DecidableEq, Inhabited

namespace Double

/-- The number nearest to a decimal. -/
def ofDecimal (negative : Bool) (coefficient : Nat) (exponent : Int) : Double :=
  ⟨(Binary.Format.double.nearestDecimal negative coefficient exponent).toUInt64⟩

/-- Whether the bits stand for no number. -/
def isNaN (x : Double) : Bool :=
  x.bits &&& 0x7FFFFFFFFFFFFFFF > 0x7FF0000000000000

/-- What a computation on numbers gives where it has no number to give. -/
def indefinite : Double := ⟨0xFFF8000000000000⟩

/-- The same bits, marked as having gone through a computation. -/
def quiet (x : Double) : Double :=
  ⟨x.bits ||| 0x0008000000000000⟩

/-- The machine number with these bits. -/
def toMachine (x : Double) : Float :=
  Float.ofBits x.bits

/-- The bits of a machine number. -/
def ofMachine (x : Float) : Double :=
  if x.isNaN then indefinite else ⟨x.toBits⟩

/-- An operation of the machine on two numbers; an operand that is no number is passed on, the
left one first. -/
def apply (op : Float → Float → Float) (a b : Double) : Double :=
  if a.isNaN then a.quiet
  else if b.isNaN then b.quiet
  else ofMachine (op a.toMachine b.toMachine)

/-- The number nearest to a count below `2 ^ 64`. -/
def ofCount (n : Nat) : Double :=
  ofMachine n.toUInt64.toFloat

instance : Add Double := ⟨apply (· + ·)⟩
instance : Mul Double := ⟨apply (· * ·)⟩
instance : Div Double := ⟨apply (· / ·)⟩

/-- What the bits stand for. -/
def datum (x : Double) : Binary.Datum :=
  Binary.Format.double.decode x.bits.toNat

/-- The shortest text that reads back. -/
def text (x : Double) : String :=
  x.datum.shortest

/-- The text with a fixed number of decimal places. -/
def fixed (places : Nat) (x : Double) : String :=
  x.datum.fixed places

end Double

end Offload
