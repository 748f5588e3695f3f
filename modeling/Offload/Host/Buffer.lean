import Offload.Element.Type

/-!
# Host buffers

A host buffer is an array of elements of one type in the memory of the host. Everyone who holds
its identity sees the same elements. Its version counts the times that it was opened for
writing; two equal versions of one buffer therefore have equal contents.

* `HostBuffer.edit`, `HostBuffer.overwrite` — the two ways to write. Both raise the version by
  one before they touch an element, also where nothing is written in the end.
* `HostMemory` — the buffers made so far, which are never forgotten: an identity is a position.
-/

namespace Offload

/-- The identity of a host buffer. -/
structure HostId where
  /-- how many buffers were made before it -/
  index : Nat
deriving DecidableEq, Inhabited

/-- The identity as text, counted from one. -/
def HostId.text (id : HostId) : String :=
  "#" ++ Decimal.text (id.index + 1)

/-- An array of elements in the memory of the host. -/
structure HostBuffer where
  /-- the type of the elements -/
  type : ElementType
  /-- an element takes up at least a byte -/
  wide : 0 < type.bytes
  /-- the number of elements -/
  len : Nat
  /-- the elements one after the other -/
  bytes : Bytes
  /-- how often the buffer was opened for writing -/
  version : Nat
  /-- the elements fill the buffer -/
  size_eq : bytes.size = type.bytes * len

namespace HostBuffer

/-- The buffer of the elements of a list. -/
def ofList (t : ElementType) (vs : List t.Value) (wide : 0 < t.bytes := by decide) :
    HostBuffer where
  type := t
  wide := wide
  len := vs.length
  bytes := t.bytesOf vs
  version := 0
  size_eq := t.size_bytesOf vs

/-- The buffer of `n` elements that all-zero bytes stand for. -/
def zeroed (t : ElementType) (n : Nat) (wide : 0 < t.bytes := by decide) : HostBuffer where
  type := t
  wide := wide
  len := n
  bytes := .zeros (t.bytes * n)
  version := 0
  size_eq := by simp

/-- The buffer of `n` times the same element. -/
def filled (t : ElementType) (n : Nat) (v : t.Value) (wide : 0 < t.bytes := by decide) :
    HostBuffer :=
  ofList t (List.replicate n v) wide

instance : Inhabited HostBuffer := ⟨zeroed default 0⟩

/-- The elements. -/
def toList (b : HostBuffer) : List b.type.Value :=
  b.type.valuesOf b.bytes b.len

/-- The size of the elements in bytes. -/
def byteLen (b : HostBuffer) : Nat :=
  b.type.bytes * b.len

/-- The same elements with the version raised. -/
def touch (b : HostBuffer) : HostBuffer :=
  { b with version := b.version + 1 }

/-- The same buffer with other bytes from `offset` on, as far as they fit. -/
def patch (b : HostBuffer) (offset : Nat) (xs : List UInt8) : HostBuffer :=
  { b with
    bytes := b.bytes.overwrite offset xs
    size_eq := by rw [Bytes.size_overwrite, b.size_eq] }

/-- Store elements one after the other, up to the first index that is out of range. The result
says whether all of them were stored. -/
def storeAll (b : HostBuffer) : List (Nat × List UInt8) → Bool × HostBuffer
  | [] => (true, b)
  | (i, xs) :: r =>
    if i < b.len then (b.patch (i * b.type.bytes) xs).storeAll r else (false, b)

/-- Open the buffer for writing and store elements at indices. -/
def edit (b : HostBuffer) (edits : List (Nat × b.type.Value)) : Bool × HostBuffer :=
  b.touch.storeAll (edits.map fun e => (e.1, b.type.toBytes e.2))

/-- Open the buffer for writing and replace its first bytes; more bytes than it has are
refused. The result says whether they were written. -/
def overwrite (b : HostBuffer) (xs : List UInt8) : Bool × HostBuffer :=
  if xs.length ≤ b.bytes.size then (true, b.touch.patch 0 xs) else (false, b.touch)

/-- The buffer with its identity, as a record. -/
def description (id : HostId) (b : HostBuffer) : String :=
  "HostBuffer \x7b id: HostBufferId(" ++ Decimal.text (id.index + 1) ++ "), dtype: " ++
    b.type.description ++ ", len: " ++ Decimal.text b.len ++ " \x7d"

@[simp] theorem type_patch (b : HostBuffer) (offset : Nat) (xs : List UInt8) :
    (b.patch offset xs).type = b.type := rfl

@[simp] theorem len_patch (b : HostBuffer) (offset : Nat) (xs : List UInt8) :
    (b.patch offset xs).len = b.len := rfl

@[simp] theorem version_patch (b : HostBuffer) (offset : Nat) (xs : List UInt8) :
    (b.patch offset xs).version = b.version := rfl

/-- Storing elements leaves type, length and version alone. -/
theorem storeAll_frame (b : HostBuffer) (edits : List (Nat × List UInt8)) :
    (b.storeAll edits).2.type = b.type ∧ (b.storeAll edits).2.len = b.len ∧
      (b.storeAll edits).2.version = b.version := by
  induction edits generalizing b with
  | nil => exact ⟨rfl, rfl, rfl⟩
  | cons e r ih =>
    rw [storeAll]
    split
    · exact ih (b.patch _ _)
    · exact ⟨rfl, rfl, rfl⟩

/-- Every edit raises the version by one. -/
theorem version_edit (b : HostBuffer) (edits : List (Nat × b.type.Value)) :
    (b.edit edits).2.version = b.version + 1 :=
  (storeAll_frame b.touch _).2.2

/-- Every overwrite raises the version by one. -/
theorem version_overwrite (b : HostBuffer) (xs : List UInt8) :
    (b.overwrite xs).2.version = b.version + 1 := by
  rw [overwrite]
  split <;> rfl

end HostBuffer

/-! ### All buffers -/

/-- The host buffers made so far. -/
structure HostMemory where
  /-- the buffers, in the order in which they were made -/
  buffers : Array HostBuffer
deriving Inhabited

namespace HostMemory

/-- No buffers. -/
def empty : HostMemory := ⟨#[]⟩

/-- The buffer of an identity; an identity that was not given out yet has an empty buffer. -/
def get (m : HostMemory) (id : HostId) : HostBuffer :=
  m.buffers.getD id.index default

/-- Add a buffer under a new identity. -/
def insert (m : HostMemory) (b : HostBuffer) : HostId × HostMemory :=
  (⟨m.buffers.size⟩, ⟨m.buffers.push b⟩)

/-- Change one buffer. -/
def set (m : HostMemory) (id : HostId) (b : HostBuffer) : HostMemory :=
  ⟨m.buffers.setIfInBounds id.index b⟩

/-- A change is seen under the identity of the buffer. -/
theorem get_set_self {m : HostMemory} {id : HostId} (b : HostBuffer)
    (h : id.index < m.buffers.size) : (m.set id b).get id = b := by
  simp [get, set, Array.getD, h]

/-- A change is not seen under any other identity. -/
theorem get_set_ne (m : HostMemory) {id id' : HostId} (b : HostBuffer) (h : id' ≠ id) :
    (m.set id b).get id' = m.get id' := by
  have hne : id.index ≠ id'.index := fun he => h (by cases id; cases id'; simp_all)
  simp only [get, set, Array.getD_eq_getD_getElem?]
  rw [Array.getElem?_setIfInBounds_ne hne]

/-- A new buffer leaves the others as they are. -/
theorem get_insert_of_lt (m : HostMemory) (b : HostBuffer) {id : HostId}
    (h : id.index < m.buffers.size) : (m.insert b).2.get id = m.get id := by
  simp only [get, insert, Array.getD_eq_getD_getElem?]
  rw [Array.getElem?_push_lt h, Array.getElem?_eq_getElem h]

end HostMemory

end Offload
