import Offload.Kernel.Execution
import Offload.Device.Target

/-!
# Devices

A device owns memory, moves bytes between the host and its memory, and runs kernels. Memory
comes from a pool. The calls that reach the hardware are counted by kind, and a schedule says
which of them fail; a call that fails does nothing else.

* `Device.upload`, `Device.download` — copies to and from an allocation.
* `Device.launch` — checks the arguments of a kernel, works out its grid and runs it.
* `Device.reset` — gives back the memory that the pool keeps.
-/

namespace Offload

/-- A kind of call that reaches the hardware. -/
inductive Call where
  /-- a copy from the host -/
  | upload
  /-- a copy to the host -/
  | download
  /-- a launch -/
  | launch
  /-- waiting for work to be done -/
  | synchronize
  /-- a reset -/
  | reset
deriving DecidableEq

namespace Call

/-- The name of the kind in error texts. -/
def name : Call → String
  | upload => "h2d"
  | download => "d2h"
  | launch => "launch"
  | synchronize => "sync"
  | reset => "reset"

/-- The place of the kind in a tally. -/
def rank : Call → Fin 5
  | upload => 0
  | download => 1
  | launch => 2
  | synchronize => 3
  | reset => 4

end Call

/-- A device. -/
structure Device where
  /-- what the device is -/
  target : Target
  /-- its memory -/
  pool : Pool
  /-- whether the `n`-th call of a kind fails, counted from one -/
  faults : Call → Nat → Bool
  /-- how many calls of each kind there were -/
  tally : Vector Nat 5
  /-- what kernels reported -/
  notes : Array Note

namespace Device

/-- The name of the allocator that all devices use. -/
def allocatorName : String := "CPU"

/-- The host as a device, with a limit on its memory if there is one. -/
def cpu (limit : Option Nat) (keep : Nat) : Device where
  target := .cpu
  pool := .empty limit keep
  faults _ _ := false
  tally := .replicate 5 0
  notes := #[]

/-- The number of bytes that allocations and the pool hold. -/
def memoryUsed (d : Device) : Nat := d.pool.arena.used

/-- The number of blocks that the pool keeps. -/
def cachedBlocks (d : Device) : Nat := d.pool.cached.length

/-- How many calls of a kind there were. -/
def count (d : Device) (c : Call) : Nat := d.tally.get c.rank

/-- The device with one more call counted. -/
def counted (c : Call) (d : Device) : Device :=
  { d with tally := d.tally.set c.rank (d.count c + 1) }

/-- Count a call, and fail if that is its fate. -/
def call (c : Call) : Step DeviceError Device Unit := fun d =>
  let n := d.count c + 1
  if d.faults c n then
    (.error (.transfer ("injected " ++ c.name ++ " fault " ++ Decimal.text n)), d.counted c)
  else (.ok (), d.counted c)

/-- A step on the pool. -/
def onPool {α : Type} (f : Pool → Except DeviceError α × Pool) : Step DeviceError Device α :=
  Step.on Device.pool (fun p d => { d with pool := p }) (Step.of f)

/-- Make room for elements. -/
def allocate (t : ElementType) (len : Nat) : Step DeviceError Device Allocation :=
  onPool fun p => p.allocate t len

/-- Give up an allocation. -/
def release (d : Device) (a : Allocation) : Device :=
  { d with pool := d.pool.release a }

/-- The same device with other contents of its memory. -/
def withArena (d : Device) (m : Arena) : Device :=
  { d with pool := { d.pool with arena := m } }

/-- Copy bytes into an allocation, without a call. -/
def poke (a : Allocation) (src : Bytes) : Step DeviceError Device Unit := fun d =>
  match d.pool.arena.upload a src with
  | .ok m => (.ok (), d.withArena m)
  | .error e => (.error e, d)

/-- Copy bytes from the host into an allocation. -/
def upload (a : Allocation) (src : Bytes) : Step DeviceError Device Unit := do
  call .upload
  poke a src

/-- Copy an allocation to a place for `n` bytes on the host. -/
def download (a : Allocation) (n : Nat) : Step DeviceError Device Bytes := do
  call .download
  let d ← get
  Step.lift (d.pool.arena.download a n)

/-- Run a kernel over a grid without checking its arguments. -/
def execute (k : Kernel) (args : List LaunchArg) (g : Grid) : Step DeviceError Device Unit :=
  Step.on (fun d => ⟨d.pool.arena, d.notes⟩)
    (fun (s : Execution) d => { d.withArena s.arena with notes := s.notes })
    (k.execute args g)

/-- Launch a kernel: check the arguments, work out the grid, and run. -/
def launch (k : Kernel) (args : List LaunchArg) : Step DeviceError Device Grid := do
  call .launch
  Step.lift (k.checkArgs args)
  let g ← Step.lift (k.grid args)
  execute k args g
  return g

/-- Wait for work to be done. All work is done when its call returns. -/
def synchronize : Step DeviceError Device Unit :=
  call .synchronize

/-- Give back the memory that the pool keeps. -/
def reset : Step DeviceError Device Unit := do
  call .reset
  modify fun d => { d with pool := d.pool.trim }

end Device

end Offload
