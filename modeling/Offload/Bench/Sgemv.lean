import Offload.Accuracy.Distance
import Offload.Bench.Config
import Offload.Bench.Runner
import Offload.Graph.Execution
import Offload.Linear.Kernel
import Offload.Linear.Routine
import Offload.Registry

/-!
# The matrix-vector benchmark

Multiplies a matrix that is one on its diagonal and zero elsewhere by a vector of random
numbers, on a device, and compares the result with that of the host.

* `Sgemv.setUp`, `Sgemv.code`, `Sgemv.validate`, `Sgemv.tearDown` — the phases.
* `Sgemv.benchmark` — the phases as a benchmark for the runner.
-/

namespace Offload.Bench

/-- The data of the benchmark and the graph that works on it. -/
structure SgemvData where
  /-- the matrix -/
  a : HostId
  /-- the vector -/
  x : HostId
  /-- the result -/
  y : HostId
  /-- what is run -/
  graph : Graph

/-- The benchmark. -/
structure Sgemv where
  /-- what was asked for -/
  config : Config
  /-- the machine that it runs on -/
  machine : Machine
  /-- the kernel -/
  kernel : Kernel
  /-- the data, once it is set up -/
  data : Option SgemvData

namespace Sgemv

/-- The name of the benchmark. -/
def name : String := "sgemv"

/-- A benchmark that is not set up yet. -/
def new (config : Config) (d : Device) : Sgemv where
  config := config
  machine := ⟨.empty, .ofDevice d⟩
  kernel := Linear.sgemvKernel ⟨0⟩
  data := none

/-- A benchmark on the device that its configuration names. -/
def fromRegistry (config : Config) (r : ContextRegistry) : Except BenchError Sgemv :=
  match ContextRegistry.getNamed config.backend r with
  | (.ok ref, r) => .ok (new config (r.devices.device (r.deviceOf ref)))
  | (.error e, _) => .error (.runtime e)

/-- The matrix that is one on its diagonal. -/
def matrix (m n : Nat) : List Single :=
  (List.range (m * n)).map fun p => if p / n = p % n then Single.one else Single.zero

/-- A size as the argument of the kernel. -/
def kernelExtent (key : String) (value : Nat) : Except BenchError Scalar :=
  if value < Nat.pow 2 31 then .ok ⟨.int32, Int32.ofNat value⟩
  else .error (.invalidProperty key (Decimal.text value))

/-- Add the nodes of the benchmark to its graph. -/
def build (config : Config) (kernel : Kernel) (m n : Scalar) (a x y : HostId) :
    Step GraphError Site Unit := do
  if config.streamIn then Graph.streamIn [a, x] else Graph.copyIn [a, x]
  Graph.task name kernel [.scalar m, .scalar n, .buffer a, .buffer x, .buffer y]
  if config.streamOut then Graph.streamOut [y]
  if config.warmup then Graph.warmup

/-- Give up a graph that is needed no longer. -/
def discard (machine : Machine) (g : Graph) : Machine :=
  (Graph.releaseAll ⟨machine, g⟩).machine

/-- Make the data and the graph; `x` are the numbers of the vector. A graph that cannot be built
leaves nothing behind, and one that was there before is given up once the new one stands. -/
def setUp (x : Nat → Single) : Step BenchError Sgemv Unit := do
  let s ← get
  let m := s.config.m
  let n := s.config.n
  let rows ← Step.lift (kernelExtent "benchmark.m" m)
  let cols ← Step.lift (kernelExtent "benchmark.n" n)
  let hosts := s.machine.hosts
  let (a, hosts) := hosts.insert (.ofList Linear.realType (matrix m n))
  let (x, hosts) := hosts.insert (.ofList Linear.realType ((List.range n).map x))
  let (y, hosts) := hosts.insert (.zeroed Linear.realType m)
  let (r, site) := build s.config s.kernel rows cols a x y
    ⟨{ s.machine with hosts }, .empty "benchmark"⟩
  match r with
  | .error e =>
    set { s with machine := discard site.machine site.graph }
    throw (.runtime e)
  | .ok () =>
    let machine := (s.data.map SgemvData.graph).elim site.machine (discard site.machine)
    set { s with machine, data := some ⟨a, x, y, site.graph⟩ }

/-- The data. -/
def ready : Step BenchError Sgemv SgemvData := do
  match (← get).data with
  | some d => return d
  | none => throw (.notSetUp name)

/-- A step on the graph. -/
def onSite {α : Type} (d : SgemvData) (m : Step GraphError Site α) : Step BenchError Sgemv α :=
  (m.on (fun s => ⟨s.machine, (s.data.map SgemvData.graph).getD d.graph⟩)
    fun site s =>
      { s with machine := site.machine, data := some { d with graph := site.graph } }).mapError
    .runtime

/-- Run once. -/
def code : Step BenchError Sgemv Unit := do
  let d ← ready
  let _ ← onSite d Graph.execute

/-- The elements of a buffer. -/
def elements (s : Sgemv) (h : HostId) : List Single :=
  let b := s.machine.hosts.get h
  Linear.realType.valuesOf b.bytes b.len

/-- Run once and compare the result with that of the host. -/
def validate : Step BenchError Sgemv Bool := do
  let d ← ready
  let _ ← onSite d Graph.execute
  onSite d (Graph.synchronize [d.y])
  onSite d Graph.clearProfile
  let s ← get
  let reference := Linear.sgemv s.config.m s.config.n (s.elements d.a).toArray
    (s.elements d.x).toArray (Array.replicate s.config.m Single.zero)
  let distance := Accuracy.greatestDistance (s.elements d.y) (reference.getD #[]).toList
  return distance.lt s.config.maxDistance

/-- Give the graph up after its profile was written out. -/
def finish (d : SgemvData) : Step BenchError Sgemv Unit := fun s =>
  let site : Site := ⟨s.machine, d.graph⟩
  match Graph.profileText site with
  | (.ok _, site) => (.ok (), { s with machine := (Graph.dispose site).machine, data := none })
  | (.error e, site) =>
    (.error (.runtime e), { s with machine := discard site.machine site.graph, data := none })

/-- Reset the device. -/
def resetDevice : Step BenchError Sgemv Unit :=
  (Step.on (fun s => s.machine.context)
    (fun c s => { s with machine := { s.machine with context := c } })
    (Context.onDevice Device.reset)).mapError fun e => .runtime (.deviceFailure e)

/-- Give everything up, the memory that the device keeps included. -/
def tearDown : Step BenchError Sgemv Unit := do
  match (← get).data with
  | none => pure ()
  | some d => finish d
  resetDevice

/-- What the device is called. -/
def deviceName (s : Sgemv) : String :=
  s.config.deviceName.getD s.machine.context.device.target.name

/-- The result as it is now. -/
def output (s : Sgemv) : Option (List Single) :=
  s.data.map fun d => s.elements d.y

/-- The phases as a benchmark, on top of any monad. -/
def benchmark {m : Type → Type} [Monad m] (x : Nat → Single) : Benchmark (StateT Sgemv m) where
  setUp := fun s => return setUp x s
  code := fun s => return code s
  validate := fun s => return validate s
  tearDown := fun s => return tearDown s
  deviceName := fun s => return (s.deviceName, s)

end Sgemv

end Offload.Bench
