import Offload.Memory.Arena

/-!
# Pools

A pool stands in front of an arena and keeps blocks that were given back, up to a number for
each size, so that the next request for just that size need not go to the arena. What a pool
keeps is still in use as far as the arena is concerned; a request that does not fit therefore
makes the pool give back everything it keeps, and is then tried a second time.

* `Pool.alloc` — the block kept last of the right size, or one from the arena.
* `Pool.free` — keeps a block or hands it on.
* `Pool.trim` — gives everything back.
-/

namespace Offload

/-- An arena with the blocks that are kept for later. -/
structure Pool where
  /-- where the memory comes from -/
  arena : Arena
  /-- how many blocks of one size are kept -/
  keep : Nat
  /-- the blocks kept with their sizes, the last one first -/
  cached : List (Nat × BlockId)
deriving Inhabited

namespace Pool

/-- How many blocks of one size are kept where nobody says otherwise. -/
def defaultKeep : Nat := 32

/-- A pool that keeps nothing yet. -/
def empty (capacity : Option Nat) (keep : Nat) : Pool := ⟨.empty capacity, keep, []⟩

/-- How many blocks of a size are kept now. -/
def countOf (p : Pool) (size : Nat) : Nat :=
  p.cached.countP (·.1 == size)

/-- Give all blocks that are kept back to the arena. -/
def trim (p : Pool) : Pool :=
  { p with arena := p.cached.foldl (fun a entry => a.free entry.2) p.arena, cached := [] }

/-- A block from the arena, if need be after a trim. Where both attempts fail, the error is
that of the first one. -/
def allocFresh (p : Pool) (size : Nat) : Except DeviceError BlockId × Pool :=
  match p.arena.alloc size with
  | (.ok id, a) => (.ok id, { p with arena := a })
  | (.error e, _) =>
    match p.trim.arena.alloc size with
    | (.ok id, a) => (.ok id, { p.trim with arena := a })
    | (.error _, _) => (.error e, p.trim)

/-- Hand out a block. A block that was kept is cleared where the caller wants zeros. -/
def alloc (p : Pool) (size : Nat) (zero : Bool) : Except DeviceError BlockId × Pool :=
  match p.cached.find? (·.1 == size) with
  | some entry =>
    let p := { p with cached := p.cached.erase entry }
    (.ok entry.2, if zero then { p with arena := p.arena.modify entry.2 .clear } else p)
  | none => p.allocFresh size

/-- Take a block back: keep it, if not enough of its size are kept already. -/
def free (p : Pool) (id : BlockId) : Pool :=
  match p.arena.get? id with
  | none => p
  | some b =>
    if p.countOf b.size < p.keep then { p with cached := (b.size, id) :: p.cached }
    else { p with arena := p.arena.free id }

/-- Nothing is kept after a trim. -/
@[simp] theorem cached_trim (p : Pool) : p.trim.cached = [] := rfl

/-- The next request for a size gets the block of that size that was kept last. -/
theorem alloc_of_cached {p : Pool} {size : Nat} {entry : Nat × BlockId} (zero : Bool)
    (h : p.cached.find? (·.1 == size) = some entry) : (p.alloc size zero).1 = .ok entry.2 := by
  simp only [alloc, h]

end Pool

end Offload
