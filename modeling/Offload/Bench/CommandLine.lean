import Offload.Bench.Sgemv

/-!
# The command line

Runs the matrix-vector benchmark as the arguments and the environment ask for it, and prints
its summary.

`CommandLine.run` works in any monad that has a clock. Its result is the exit code and what is
to be printed.
-/

namespace Offload.Bench

/-- The `i`-th of a sequence of numbers from zero to one, one excluded, that look random. -/
def noise (seed i : Nat) : Single :=
  let h : UInt64 := (seed + i + 1).toUInt64 * 0x9E3779B97F4A7C15
  let h := (h ^^^ (h >>> 30)) * 0xBF58476D1CE4E5B9
  let h := (h ^^^ (h >>> 27)) * 0x94D049BB133111EB
  Single.ofCount ((h ^^^ (h >>> 31)) >>> 40).toNat / Single.ofCount (Nat.pow 2 24)

namespace CommandLine

/-- The benchmark that arguments and environment ask for. -/
def prepare (env : Environment) (args : List String) : Except BenchError Sgemv := do
  let config ← Config.ofProperties (.ofArgs env args)
  Sgemv.fromRegistry config (.ofDevices (.empty env))

/-- Run the program. The exit code is 101 where the benchmark is stopped by what it needs room
for. -/
def run {m : Type → Type} [Monad m] (now : m Nat) (seed : Nat) (env : Environment)
    (args : List String) : m (UInt32 × String) := do
  match prepare env args with
  | .error _ => return (1, "")
  | .ok s =>
    let clock : StateT Sgemv m Nat := fun s => return (← now, s)
    let (r, _) ← ((Sgemv.benchmark (noise seed)).run clock s.config.iterations).run s
    match r with
    | none => return (101, "")
    | some (.error _) => return (1, "")
    | some (.ok summary) => return (0, summary.text ++ "\n")

end CommandLine

end Offload.Bench
