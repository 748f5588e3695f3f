import Offload.Bench.Properties
import Offload.Binary.Single

/-!
# Configuration of benchmarks

What a benchmark run depends on, with a default for everything.
-/

namespace Offload.Bench

/-- The configuration of a benchmark. -/
structure Config where
  /-- whether inputs are copied on every run, and not only when they are stale -/
  streamIn : Bool := true
  /-- whether the result is copied back after every run -/
  streamOut : Bool := true
  /-- whether memory is allocated and kernels are compiled before the timed runs -/
  warmup : Bool := true
  /-- what the device is called in the summary, if not by its own name -/
  deviceName : Option String := none
  /-- the target to run on -/
  backend : String := "CPU"
  /-- the number of timed runs -/
  iterations : Nat := 100
  /-- the distance to the reference from which on a result is wrong -/
  maxDistance : Single := Single.ofCount 1000
  /-- the number of rows -/
  m : Nat := 64
  /-- the number of columns -/
  n : Nat := 64

namespace Config

/-- Nothing but defaults. -/
def standard : Config := {}

/-- The configuration that properties ask for. The first number that cannot be read is an
error. -/
def ofProperties (p : Properties) : Except BenchError Config := do
  let iterations ← p.getParsed "benchmark.iterations" Decimal.readSize?
  let maxDistance ← p.getParsed "benchmark.maxulp" Single.read?
  let m ← p.getParsed "benchmark.m" Decimal.readSize?
  let n ← p.getParsed "benchmark.n" Decimal.readSize?
  return {
    streamIn := p.getBool "benchmark.streamin" standard.streamIn
    streamOut := p.getBool "benchmark.streamout" standard.streamOut
    warmup := p.getBool "benchmark.warmup" standard.warmup
    deviceName := p.get? "benchmark.device"
    backend := (p.get? "benchmark.backend").getD standard.backend
    iterations := iterations.getD standard.iterations
    maxDistance := maxDistance.getD standard.maxDistance
    m := m.getD standard.m
    n := n.getD standard.n }

end Config

end Offload.Bench
