import Offload.Kernel.Locks

/-!
# Guards

How a launch comes by its locks. Every block has a mutex of its own, and whoever takes it gets a
guard. A launch goes through its arguments in order and takes the mutex of each block that it has
not met before; it tells blocks from one another by where they are. A mutex does not know who took
it, so a launch that took one for the second time would wait for itself for ever.

* `Placement` — where blocks are.
* `Guards.add` — what is done for one argument.
* `Guards.gather` — the guards for a list of arguments.
* `Guards.ofTable` — the guards that a table of locks stands for.
-/

namespace Offload

/-- The block of an allocation, unless its memory was released. -/
def Arena.blockOf? (m : Arena) (a : Allocation) : Option BlockId :=
  a.block.filter fun id => (m.get? id).isSome

/-- Where blocks are. -/
structure Placement where
  /-- the address of a block -/
  address : BlockId → Nat
  /-- no two blocks are in one place -/
  injective : ∀ id id', address id = address id' → id = id'
  /-- no block is at address zero -/
  ne_zero : ∀ id, address id ≠ 0

namespace Placement

/-- The address of the block of an allocation; zero where its memory was released. -/
def addressIn (p : Placement) (m : Arena) (a : Allocation) : Nat :=
  (m.blockOf? a).elim 0 p.address

/-- One block after the other. -/
def consecutive : Placement where
  address id := id.index + 1
  injective := by
    rintro ⟨i⟩ ⟨j⟩ h
    exact congrArg BlockId.mk (Nat.succ.inj h)
  ne_zero _ := Nat.succ_ne_zero _

end Placement

/-- Why a launch does not get its locks. -/
inductive Stall where
  /-- the memory of an argument was released -/
  | notAllocated
  /-- it waits for a mutex that it took itself -/
  | deadlock (id : BlockId)
deriving DecidableEq

/-- What a launch has gathered for its arguments so far. -/
structure Guards where
  /-- for every argument the place of its guard; nothing for a scalar -/
  entries : List (Option Nat)
  /-- the blocks whose mutexes were taken, in that order -/
  taken : List BlockId
  /-- the addresses of these blocks -/
  addresses : List Nat
deriving DecidableEq

namespace Guards

variable (p : Placement) (m : Arena)

/-- Take the mutex of the block of an allocation. -/
def take (g : Guards) (a : Allocation) : Except Stall Guards :=
  match m.blockOf? a with
  | none => .error .notAllocated
  | some id =>
    if id ∈ g.taken then .error (.deadlock id) else .ok { g with taken := g.taken ++ [id] }

/-- Do what is to be done for one more argument. -/
def add (g : Guards) : LaunchArg → Except Stall Guards
  | .scalar _ => .ok { g with entries := g.entries ++ [none] }
  | .buffer a =>
    match g.addresses.idxOf? (p.addressIn m a) with
    | some i => .ok { g with entries := g.entries ++ [some i] }
    | none => do
      let g ← g.take m a
      return { g with
        entries := g.entries ++ [some (g.taken.length - 1)]
        addresses := g.addresses ++ [p.addressIn m a] }

/-- The guards for a list of arguments. -/
def gather (args : List LaunchArg) : Except Stall Guards :=
  args.foldlM (add p m) ⟨[], [], []⟩

/-- The guards that a table of locks stands for. -/
def ofTable (t : LockTable) : Guards :=
  ⟨t.entries, t.held, t.held.map p.address⟩

end Guards

end Offload
