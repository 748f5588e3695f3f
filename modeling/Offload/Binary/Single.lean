import Offload.Binary.Fixed
import Offload.Binary.Numeral
import Offload.Binary.Shortest

/-!
# Single-precision numbers

A single-precision number is kept as its 32 bits. Storing and copying then preserve every bit
pattern, the many patterns that stand for no number included; only arithmetic on numbers goes
through the machine's number type, which has one such pattern.

Two equalities live side by side: `=` compares bits, and `==` compares numbers, so that
`0 == -0` holds and no pattern that stands for no number equals itself. Numbers are compared by
their places on the number line, for which the bits are enough.

* `Single.apply` — arithmetic: an operand that is no number is passed on, the left one first.
* `Single.place` — the place of a number on the number line, and `Single.lt` — the order.
* `Single.max`, `Single.min` — the greater and the smaller number, where an operand that is no
  number gives way to the other.
* `Single.sum` — adds from left to right, starting from negative zero, which is the one start
  that changes no summand.
-/

namespace Offload

/-- A single-precision number, as its bits. -/
structure Single where
  /-- sign, exponent and fraction -/
  bits : UInt32
deriving DecidableEq, Inhabited

namespace Single

/-- The number nearest to a decimal. -/
def ofDecimal (negative : Bool) (coefficient : Nat) (exponent : Int) : Single :=
  ⟨(Binary.Format.single.nearestDecimal negative coefficient exponent).toUInt32⟩

/-- Positive zero. -/
def zero : Single := ⟨0x00000000⟩

/-- Negative zero. -/
def negZero : Single := ⟨0x80000000⟩

/-- One. -/
def one : Single := ⟨0x3F800000⟩

/-- Positive infinity. -/
def infinity : Single := ⟨0x7F800000⟩

/-- The greatest finite number. -/
def greatest : Single := ⟨0x7F7FFFFF⟩

/-- No number. -/
def nan : Single := ⟨0x7FC00000⟩

/-- What a computation on numbers gives where it has no number to give, such as the difference
of two infinities. -/
def indefinite : Single := ⟨0xFFC00000⟩

/-- The magnitude: the same bits without the sign. -/
def abs (x : Single) : Single :=
  ⟨x.bits &&& 0x7FFFFFFF⟩

/-- Whether the bits stand for no number. -/
def isNaN (x : Single) : Bool :=
  x.abs.bits > infinity.bits

/-- Whether the bits stand for an infinity. -/
def isInfinite (x : Single) : Bool :=
  x.abs.bits == infinity.bits

/-- The same bits, marked as having gone through a computation. -/
def quiet (x : Single) : Single :=
  ⟨x.bits ||| 0x00400000⟩

/-! ### Order -/

/-- The place on the number line, counted in numbers of the format. Both zeros are at zero. -/
def place (x : Single) : Int :=
  if x.bits < 0x80000000 then x.abs.bits.toNat else -(x.abs.bits.toNat : Int)

instance : BEq Single := ⟨fun a b => !a.isNaN && !b.isNaN && a.place == b.place⟩

/-- Whether `a` is a smaller number than `b`. -/
def lt (a b : Single) : Bool :=
  !a.isNaN && !b.isNaN && a.place < b.place

/-- Nothing is smaller than itself. -/
@[simp] theorem lt_irrefl (a : Single) : a.lt a = false := by
  simp [lt]

/-- What is smaller than something smaller is smaller. -/
theorem lt_trans {a b c : Single} (hab : a.lt b = true) (hbc : b.lt c = true) :
    a.lt c = true := by
  simp only [lt, Bool.and_eq_true, Bool.not_eq_true', decide_eq_true_eq] at hab hbc ⊢
  obtain ⟨⟨ha, _⟩, hp⟩ := hab
  obtain ⟨⟨_, hc⟩, hq⟩ := hbc
  exact ⟨⟨ha, hc⟩, Int.lt_trans hp hq⟩

/-- The greater number; one that is no number gives way to the other. -/
def max (a b : Single) : Single :=
  if a.isNaN then b else if b.isNaN then a else if a.lt b then b else a

/-- The smaller number; one that is no number gives way to the other. -/
def min (a b : Single) : Single :=
  if a.isNaN then b else if b.isNaN then a else if b.lt a then b else a

/-! ### Arithmetic -/

/-- The machine number with these bits. -/
def toMachine (x : Single) : Float32 :=
  Float32.ofBits x.bits

/-- The bits of a machine number. -/
def ofMachine (x : Float32) : Single :=
  if x.isNaN then indefinite else ⟨x.toBits⟩

/-- An operation of the machine on two numbers. -/
def apply (op : Float32 → Float32 → Float32) (a b : Single) : Single :=
  if a.isNaN then a.quiet
  else if b.isNaN then b.quiet
  else ofMachine (op a.toMachine b.toMachine)

/-- The number nearest to a count below `2 ^ 64`. -/
def ofCount (n : Nat) : Single :=
  ofMachine n.toUInt64.toFloat32

instance : Add Single := ⟨apply (· + ·)⟩
instance : Sub Single := ⟨apply (· - ·)⟩
instance : Mul Single := ⟨apply (· * ·)⟩
instance : Div Single := ⟨apply (· / ·)⟩

/-- The square root. -/
def sqrt (x : Single) : Single :=
  if x.isNaN then x.quiet else ofMachine x.toMachine.sqrt

/-- The sum of a list, from left to right. -/
def sum (xs : List Single) : Single :=
  xs.foldl (· + ·) negZero

/-- The sum of the products of paired elements; what one list has beyond the other is left
out. -/
def dot (xs ys : List Single) : Single :=
  sum (xs.zipWith (· * ·) ys)

/-- What the bits stand for. -/
def datum (x : Single) : Binary.Datum :=
  Binary.Format.single.decode x.bits.toNat

/-- The shortest text that reads back. -/
def text (x : Single) : String :=
  x.datum.shortest

/-- The text with a fixed number of decimal places. -/
def fixed (places : Nat) (x : Single) : String :=
  x.datum.fixed places

/-- Reads a numeral. -/
def read? (s : String) : Option Single :=
  (Binary.Format.single.read? s.toList).map fun bits => ⟨bits.toUInt32⟩

end Single

end Offload
