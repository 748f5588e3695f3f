import Offload.Memory.Pool

/-!
# Allocations

An allocation is room for a number of elements of one type in device memory. It has a block
until it is released.

* `Pool.allocate`, `Pool.release` — make room, filled with zeros, and give it up.
* `Arena.upload`, `Arena.download` — copy bytes in and out. The number of bytes has to be that
  of the allocation, and nothing is copied otherwise.

The width of an element times the number of elements is taken as it is. On a machine the product
wraps from `Decimal.sizeBound` on, which is beyond `blockBound`.
-/

namespace Offload

/-- Room for elements in device memory. -/
structure Allocation where
  /-- the type of the elements -/
  type : ElementType
  /-- the number of elements -/
  len : Nat
  /-- the block, unless it was released -/
  block : Option BlockId
deriving DecidableEq, Inhabited

namespace Allocation

/-- The size in bytes. -/
def size (a : Allocation) : Nat := a.type.bytes * a.len

/-- Whether there is a block. -/
def isAllocated (a : Allocation) : Bool := a.block.isSome

/-- The same room without its block. -/
def released (a : Allocation) : Allocation := { a with block := none }

end Allocation

namespace Pool

/-- Make room for elements, all of them zero. -/
def allocate (p : Pool) (t : ElementType) (len : Nat) : Except DeviceError Allocation × Pool :=
  let (r, p) := p.alloc (t.bytes * len) true
  (r.map fun id => ⟨t, len, some id⟩, p)

/-- Give the block of an allocation back. There is nothing to do where it has none. -/
def release (p : Pool) (a : Allocation) : Pool :=
  match a.block with
  | some id => p.free id
  | none => p

end Pool

namespace Arena

/-- The block of an allocation. -/
def raw (m : Arena) (a : Allocation) : Except DeviceError Block :=
  match a.block.bind m.get? with
  | some b => .ok b
  | none => .error .notAllocated

/-- Refuse a number of bytes that is not that of the allocation. -/
def checkSize (a : Allocation) (n : Nat) : Except DeviceError Unit :=
  if n = a.size then .ok () else .error (.sizeMismatch a.size n)

/-- Copy bytes into an allocation. -/
def upload (m : Arena) (a : Allocation) (src : Bytes) : Except DeviceError Arena := do
  checkSize a src.size
  let _ ← m.raw a
  return a.block.elim m fun id => m.modify id (·.patch 0 src.toList)

/-- Copy an allocation into a place for `n` bytes. -/
def download (m : Arena) (a : Allocation) (n : Nat) : Except DeviceError Bytes := do
  checkSize a n
  return (← m.raw a).content

/-- The elements of an allocation, for a caller who knows their type. -/
def elements (m : Arena) (a : Allocation) (t : ElementType) :
    Except DeviceError (List t.Value) := do
  if t ≠ a.type then throw (.typeMismatch a.type t)
  return t.valuesOf (← m.download a a.size) a.len

end Arena

end Offload
