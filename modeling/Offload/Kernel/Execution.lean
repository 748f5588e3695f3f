import Offload.Kernel.Locks
import Offload.Step

/-!
# Running kernels

A kernel runs for the points of its grid one after the other, row by row and layer by layer. It
stops at the first point whose body does not get done; what was stored until then stays.

* `Body.run` — one body.
* `Grid.sweep` — the way through a grid.
* `Kernel.execute` — a whole grid, with the blocks of the arguments held.
-/

namespace Offload

/-- How a body ends that does not get done. -/
inductive Halt where
  /-- it reported an error -/
  | error (e : DeviceError)
  /-- it crashed -/
  | crash (text : Option String)
deriving DecidableEq

/-- The error that a launch of kernel `name` ends with. -/
def Halt.toError (name : String) : Halt → DeviceError
  | error e => e
  | crash text => .launch name ("kernel body panicked: " ++ text.getD "unknown panic")

/-- Device memory while a kernel runs, and what was reported. -/
structure Execution where
  /-- device memory -/
  arena : Arena
  /-- the notes in the order in which they were made -/
  notes : Array Note

/-- What a body can reach. -/
structure Frame where
  /-- the name of the kernel -/
  kernel : String
  /-- what it takes -/
  params : List Param
  /-- what it was given -/
  args : List LaunchArg
  /-- the blocks held for it -/
  locks : LockTable

namespace Frame

/-- A launch error about the argument at an index. -/
def refuse (f : Frame) (index : Nat) (what : String) : DeviceError :=
  .launch f.kernel ("argument " ++ Decimal.text index ++ " is " ++ what)

/-- The number of elements of an argument. -/
def len (f : Frame) (index : Nat) : Except DeviceError Nat :=
  match f.args[index]? with
  | some (.buffer a) => .ok a.len
  | _ => .error (f.refuse index "not a buffer")

/-- The value of an argument, for a body that knows its type. -/
def scalar (f : Frame) (index : Nat) (t : ElementType) : Except DeviceError t.Value :=
  match f.args[index]? with
  | some (.scalar v) => match v.get? t with
    | some x => .ok x
    | none => .error (.typeMismatch (.scalar v.type) t)
  | _ => .error (f.refuse index "not a scalar")

/-- The block and the number of elements of an argument, for a body that knows their type and,
where it means to write, may do so. -/
def buffer (f : Frame) (index : Nat) (t : ElementType) (write : Bool) :
    Except DeviceError (BlockId × Nat) :=
  match f.params[index]?, f.args[index]?, f.locks.block? index with
  | some (.buffer declared access), some (.buffer a), some id =>
    if t ≠ declared then .error (.typeMismatch declared t)
    else if write && !access.writes then .error (f.refuse index "read-only")
    else .ok (id, a.len)
  | _, _, _ => .error (f.refuse index "not a buffer")

/-- The elements of an argument. Where memory is too small for them, which can only be if the
arguments were not checked, the body crashes. -/
def view (f : Frame) (m : Arena) (index : Nat) (t : ElementType) (write : Bool) :
    Except Halt (BlockId × View t) :=
  match f.buffer index t write with
  | .error e => .error (.error e)
  | .ok (id, len) =>
    let cells := (m.get? id).elim #[] Block.cells
    if len * t.bytes ≤ cells.size then .ok (id, ⟨cells, len⟩)
    else .error (.crash (some (Body.rangeText cells.size (len * t.bytes))))

end Frame

/-- Run a body. What is refused does not end it; a crash does. -/
def Body.run (f : Frame) : Body → Step Halt Execution Unit
  | done => pure ()
  | fail e => throw (.error e)
  | crash text => throw (.crash text)
  | count next => (next f.args.length).run f
  | len index next => (next (f.len index)).run f
  | scalar index t next => (next (f.scalar index t)).run f
  | view index t next => fun s =>
    match f.view s.arena index t false with
    | .ok (_, v) => (next (.ok v)).run f s
    | .error (.error e) => (next (.error e)).run f s
    | .error (.crash text) => (.error (.crash text), s)
  | writable index t next => fun s =>
    match f.view s.arena index t true with
    | .ok (_, v) => (next (.ok v)).run f s
    | .error (.error e) => (next (.error e)).run f s
    | .error (.crash text) => (.error (.crash text), s)
  | store index t place v next => fun s =>
    match f.view s.arena index t true with
    | .ok (id, w) =>
      if place < w.len then
        (next (.ok ())).run f
          { s with arena := s.arena.modify id (·.patch (place * t.bytes) (t.toBytes v)) }
      else (.error (.crash (some (indexText w.len place))), s)
    | .error (.error e) => (next (.error e)).run f s
    | .error (.crash text) => (.error (.crash text), s)
  | report n next => fun s => next.run f { s with notes := s.notes.push n }

/-- Run a step for every point of a grid, the first coordinate running fastest, up to the first
failure. -/
def Grid.sweep {ε σ : Type} (g : Grid) (visit : WorkItem → Step ε σ Unit) : Step ε σ Unit :=
  Step.range (fun z => Step.range (fun y => Step.range (fun x => visit ⟨x, y, z, g⟩) g.x 0) g.y 0)
    g.z 0

namespace Kernel

/-- Run a kernel over a grid. The arguments are not checked again. -/
def execute (k : Kernel) (args : List LaunchArg) (g : Grid) : Step DeviceError Execution Unit :=
  fun s =>
    match LockTable.acquire s.arena args with
    | .error e => (.error e, s)
    | .ok locks =>
      (g.sweep fun i => (k.body i).run ⟨k.name, k.params, args, locks⟩).mapError
        (Halt.toError k.name) s

end Kernel

end Offload
