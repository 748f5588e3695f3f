import Offload.Kernel.Basic

/-!
# Locks

While a kernel runs it holds the blocks of its buffer arguments. Arguments that name the same
block share a lock on it, so that no launch waits for itself.

* `LockTable.acquire` — the locks for a list of arguments.
-/

namespace Offload

/-- The blocks held for a list of arguments. -/
structure LockTable where
  /-- for every argument the place of its block among those held; nothing for a scalar -/
  entries : List (Option Nat)
  /-- the blocks held, each of them once -/
  held : List BlockId
deriving DecidableEq, Inhabited

namespace LockTable

/-- No locks. -/
def empty : LockTable := ⟨[], []⟩

/-- Note that an argument is a scalar. -/
def skip (t : LockTable) : LockTable :=
  { t with entries := t.entries ++ [none] }

/-- Note the block of an argument, and hold it unless it is held already. -/
def hold (t : LockTable) (id : BlockId) : LockTable :=
  match t.held.idxOf? id with
  | some i => { t with entries := t.entries ++ [some i] }
  | none => ⟨t.entries ++ [some t.held.length], t.held ++ [id]⟩

/-- Add the locks for further arguments. A buffer whose memory was released cannot be held. -/
def acquireFrom (m : Arena) (t : LockTable) : List LaunchArg → Except DeviceError LockTable
  | [] => .ok t
  | .scalar _ :: r => acquireFrom m t.skip r
  | .buffer a :: r =>
    match a.block with
    | some id => if (m.get? id).isSome then acquireFrom m (t.hold id) r else .error .notAllocated
    | none => .error .notAllocated

/-- The locks for a list of arguments. -/
def acquire (m : Arena) (args : List LaunchArg) : Except DeviceError LockTable :=
  acquireFrom m empty args

/-- The block held for the argument at an index. -/
def block? (t : LockTable) (index : Nat) : Option BlockId :=
  (t.entries[index]?.join).bind (t.held[·]?)

end LockTable

end Offload
