import Offload.Bench.Error
import Offload.Duration

/-!
# Running benchmarks

A benchmark is set up, validated, run a number of times against the clock, and torn down. It is
torn down whatever fails, and only run when it was found valid. Room for the durations is made
before the first of these runs; for `roomBound` of them there can be none, and then everything stops
there.

* `Benchmark` — what a benchmark can do, in a monad of its own.
* `Benchmark.run` — a whole benchmark.
* `Bench.Summary` — what comes out of it.
-/

namespace Offload

namespace Bench

/-- The outcome of a benchmark. -/
structure Summary where
  /-- what the device is called -/
  device : String
  /-- whether the result was right -/
  valid : Bool
  /-- the duration of each timed run -/
  runs : List Nat
deriving DecidableEq

namespace Summary

/-- The least number of runs that is too large to divide by. -/
def countBound : Nat := Nat.pow 2 32

/-- The duration of all runs. -/
def elapsed (s : Summary) : Nat := s.runs.foldr (· + ·) 0

/-- The mean duration of a run, rounded down. -/
def perIteration (s : Summary) : Nat :=
  if s.runs.length < countBound then s.elapsed / s.runs.length else 0

/-- The duration of the shortest run. -/
def shortest (s : Summary) : Nat := s.runs.min?.getD 0

/-- The outcome as a line of text. -/
def text (s : Summary) : String :=
  if s.valid then
    "id=" ++ s.device ++ ", elapsed=" ++ (secondsOf s.elapsed).fixed 6 ++
      ", per iteration=" ++ (secondsOf s.perIteration).fixed 6
  else "id=" ++ s.device ++ " produced invalid result"

end Summary

end Bench

/-- What a benchmark can do. -/
structure Benchmark (m : Type → Type) where
  /-- make the data and whatever is to be run -/
  setUp : m (Except BenchError Unit)
  /-- run once -/
  code : m (Except BenchError Unit)
  /-- run once and compare the result with a reference -/
  validate : m (Except BenchError Bool)
  /-- give everything up -/
  tearDown : m (Except BenchError Unit)
  /-- what the device is called -/
  deviceName : m String

namespace Benchmark

variable {m : Type → Type} [Monad m]

/-- The least number of durations that there is no room for: each takes sixteen bytes, and a block
of memory has less than half as many bytes as there are sizes. -/
def roomBound : Nat := Nat.pow 2 59

/-- Run `n` times against the clock, up to the first failure. The durations are added in front
of those of earlier runs. -/
def timed (now : m Nat) (b : Benchmark m) : (n : Nat) → (earlier : List Nat) →
    m (Except BenchError (List Nat))
  | 0, earlier => return .ok earlier.reverse
  | n + 1, earlier => do
    let start ← now
    match ← b.code with
    | .error e => return .error e
    | .ok () =>
      let stop ← now
      timed now b n ((stop - start) :: earlier)

/-- Tear down and report an outcome, unless tearing down fails. -/
def conclude {α : Type} (b : Benchmark m) (outcome : m (Except BenchError α)) :
    m (Except BenchError α) := do
  match ← b.tearDown with
  | .error e => return .error e
  | .ok () => outcome

/-- Run a benchmark; `none` if there is no room for the durations. A failure to set up is the
outcome whatever tearing down says, while a run that fails leaves the last word to tearing down. A
failed validation means that the result is wrong. -/
def run (now : m Nat) (b : Benchmark m) (iterations : Nat) :
    m (Option (Except BenchError Bench.Summary)) := do
  match ← b.setUp with
  | .error e =>
    let _ ← b.tearDown
    return some (.error e)
  | .ok () =>
    let valid := match ← b.validate with
      | .ok valid => valid
      | .error _ => false
    let count := if valid then iterations else 0
    if roomBound ≤ count then return none
    match ← timed now b count [] with
    | .error e => return some (← b.conclude (return .error e))
    | .ok runs => return some (← b.conclude do
      let device ← b.deviceName
      return .ok ⟨device, valid, runs⟩)

end Benchmark

end Offload
