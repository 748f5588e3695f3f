import Offload.Device.Error

/-!
# Arenas

Device memory is handed out in blocks by an arena, which may have a capacity. Memory comes in
words of eight bytes: the cells of a block are its bytes and the rest of the last word, which
belongs to the block but counts for nothing.

* `Arena.alloc` — hands out a fresh block of zeros, or says how much memory is left.
* `Arena.free` — takes a block back.

A block is known by a number that is never given out twice, so a number that was freed finds
nothing any more.

The sizes here have no bound, while there is no block of `blockBound` bytes: where a request for so
many fits the capacity, a machine stops. Where the capacity is below the bound, such requests are
refused like others that do not fit (`room_of_alloc`).
-/

namespace Offload

/-- The size in whole words that `size` bytes need. -/
def wordAligned (size : Nat) : Nat := (size + 7) / 8 * 8

theorem le_wordAligned (size : Nat) : size ≤ wordAligned size := by
  unfold wordAligned
  omega

/-- The least number of bytes that no block can have. -/
def blockBound : Nat := Nat.pow 2 63

/-- A piece of device memory. -/
structure Block where
  /-- the number of bytes asked for -/
  size : Nat
  /-- the bytes, up to the end of the last word -/
  cells : Bytes
  /-- the cells are whole words -/
  aligned : cells.size = wordAligned size

namespace Block

/-- A block of zeros. -/
def zeroed (size : Nat) : Block where
  size := size
  cells := .zeros (wordAligned size)
  aligned := by simp

/-- The bytes that were asked for. -/
def content (b : Block) : Bytes :=
  b.cells.extract 0 b.size

/-- The same block with other bytes from `offset` on. -/
def patch (b : Block) (offset : Nat) (xs : List UInt8) : Block :=
  { b with
    cells := b.cells.overwrite offset xs
    aligned := by rw [Bytes.size_overwrite, b.aligned] }

/-- The same block with zeros in all its cells. -/
def clear (b : Block) : Block :=
  zeroed b.size

@[simp] theorem size_zeroed (size : Nat) : (zeroed size).size = size := rfl

@[simp] theorem size_patch (b : Block) (offset : Nat) (xs : List UInt8) :
    (b.patch offset xs).size = b.size := rfl

@[simp] theorem size_clear (b : Block) : b.clear.size = b.size := rfl

@[simp] theorem size_content (b : Block) : b.content.size = b.size := by
  simp only [content, Array.size_extract, b.aligned]
  have := le_wordAligned b.size
  omega

/-- Fresh blocks hold zeros. -/
theorem content_zeroed (size : Nat) : (zeroed size).content = .zeros size := by
  have := le_wordAligned size
  apply Array.ext
  · simp
  · intro i h1 h2
    simp [content, zeroed, Bytes.zeros]

end Block

/-- The number of a block. -/
structure BlockId where
  /-- how many blocks were handed out before it -/
  index : Nat
deriving DecidableEq, Inhabited

/-- The memory of a device. -/
structure Arena where
  /-- the greatest number of bytes handed out at a time, if there is a limit -/
  capacity : Option Nat
  /-- the number of bytes handed out and not taken back -/
  used : Nat
  /-- every block ever handed out; nothing in place of those taken back -/
  blocks : Array (Option Block)
deriving Inhabited

namespace Arena

/-- An arena that has handed out nothing. -/
def empty (capacity : Option Nat) : Arena := ⟨capacity, 0, #[]⟩

/-- Whether `size` more bytes stay within the capacity. -/
def fits (a : Arena) (size : Nat) : Bool :=
  a.capacity.all (a.used + size ≤ ·)

/-- The number of bytes left; zero where nothing limits them, in which case nobody asks. -/
def available (a : Arena) : Nat :=
  a.capacity.getD 0 - a.used

/-- The block of a number, unless it was taken back. -/
def get? (a : Arena) (id : BlockId) : Option Block :=
  a.blocks[id.index]?.join

/-- Hand out a block of zeros. -/
def alloc (a : Arena) (size : Nat) : Except DeviceError BlockId × Arena :=
  if a.fits size then
    (.ok ⟨a.blocks.size⟩,
      { a with used := a.used + size, blocks := a.blocks.push (some (.zeroed size)) })
  else (.error (.outOfMemory size a.available), a)

/-- Take a block back. -/
def free (a : Arena) (id : BlockId) : Arena :=
  match a.get? id with
  | some b => { a with used := a.used - b.size, blocks := a.blocks.setIfInBounds id.index none }
  | none => a

/-- Change the cells of a block, if it is there. -/
def modify (a : Arena) (id : BlockId) (f : Block → Block) : Arena :=
  { a with blocks := a.blocks.modify id.index (·.map f) }

/-- A change is seen under the number of the block. -/
theorem get?_modify_self (a : Arena) (id : BlockId) (f : Block → Block) :
    (a.modify id f).get? id = (a.get? id).map f := by
  simp only [get?, modify, Array.getElem?_modify]
  rcases a.blocks[id.index]? with _ | _ | b <;> simp

/-- A change is not seen under any other number. -/
theorem get?_modify_ne (a : Arena) {id id' : BlockId} (f : Block → Block) (h : id' ≠ id) :
    (a.modify id f).get? id' = a.get? id' := by
  have hne : id.index ≠ id'.index := fun he => h (by cases id; cases id'; simp_all)
  simp only [get?, modify, Array.getElem?_modify, if_neg hne]

/-- A block that was taken back is not found any more. -/
theorem get?_free_self (a : Arena) (id : BlockId) : (a.free id).get? id = none := by
  unfold free
  split
  · simp only [get?]
    by_cases h : id.index < a.blocks.size <;> simp [h]
  · assumption

/-- The other blocks are still there. -/
theorem get?_free_ne (a : Arena) {id id' : BlockId} (h : id' ≠ id) :
    (a.free id).get? id' = a.get? id' := by
  have hne : id.index ≠ id'.index := fun he => h (by cases id; cases id'; simp_all)
  unfold free
  split
  · simp only [get?]
    rw [Array.getElem?_setIfInBounds_ne hne]
  · rfl

/-- A block that was handed out holds zeros. -/
theorem get?_alloc_self {a a' : Arena} {size : Nat} {id : BlockId}
    (h : a.alloc size = (.ok id, a')) : a'.get? id = some (.zeroed size) := by
  unfold alloc at h
  split at h
  · simp only [Prod.mk.injEq, Except.ok.injEq] at h
    obtain ⟨rfl, rfl⟩ := h
    simp [get?]
  · simp at h

/-- What is handed out within a capacity for which there is room is a block for which there is
room. -/
theorem room_of_alloc {a a' : Arena} {c size : Nat} {id : BlockId} (hc : a.capacity = some c)
    (hroom : wordAligned c < blockBound) (h : a.alloc size = (.ok id, a')) :
    wordAligned size < blockBound := by
  have hsize : size ≤ c := by
    unfold alloc at h
    split at h
    · rename_i hfits
      rw [fits, hc, Option.all_some, decide_eq_true_eq] at hfits
      exact Nat.le_trans (Nat.le_add_left _ _) hfits
    · cases h
  refine Nat.lt_of_le_of_lt ?_ hroom
  unfold wordAligned
  omega

end Arena

end Offload
