import Offload.Graph.Basic

/-!
# Running graphs

A run carries out the nodes in order and waits for the device in the end. It stops at the first
node that fails, and the error names that node; the nodes before it have left their samples in
the profile. A graph can be run again after a failure, and starts over at its first node.

* `Graph.warmup` — allocates memory and compiles kernels without running anything.
* `Graph.execute` — a run.
* `Graph.synchronize` — copies buffers back to the host outside a run.
-/

namespace Offload.Graph

/-- What a node was at when the device refused. -/
inductive Stage where
  /-- copying, or making room for it -/
  | transfer
  /-- launching, or waiting for the device -/
  | launch
deriving DecidableEq

/-- The error of a node for an error of the device. Want of memory and kernels that cannot be
compiled are told apart from all else, which is laid to what the node was at. -/
def nodeError (node : String) (stage : Stage) : DeviceError → GraphError
  | .outOfMemory requested available =>
    .deviceOutOfMemory node (.outOfMemory requested available)
  | .compilation kernel reason => .compilation node (.compilation kernel reason)
  | e => match stage with
    | .transfer => .transferFailure node e
    | .launch => .launchFailure node e

/-- A step on the slots of the graph, for a node. -/
def inNode {α : Type} (node : String) (stage : Stage) (m : Step DeviceError Workspace α) :
    Step GraphError Site α :=
  (Site.onWorkspace m).mapError (nodeError node stage)

/-- The size of the buffer in a slot in bytes. -/
def bytesIn (s : SlotId) : Step GraphError Site Nat := do
  return ((← get).workspace.host s).byteLen

/-- Copy slots to the device, unless they agree with it and that is enough. The result is the
number of bytes copied. -/
def transferIn (node : String) (always : Bool) : List SlotId → Step GraphError Site Nat
  | [] => pure 0
  | s :: r => do
    let _ ← inNode node .transfer (Workspace.ensureAllocated s)
    if always || (← get).workspace.isStale s then
      inNode node .transfer (Workspace.upload s)
      let n ← bytesIn s
      return n + (← transferIn node always r)
    else transferIn node always r

/-- Copy slots to the host. The result is the number of bytes copied. -/
def transferOut (node : String) : List SlotId → Step GraphError Site Nat
  | [] => pure 0
  | s :: r => do
    inNode node .transfer (Workspace.download s)
    let n ← bytesIn s
    return n + (← transferOut node r)

/-- What a kernel is given for the argument of a task. -/
def launchArg (t : SlotTable) : TaskArg → Except DeviceError LaunchArg
  | .scalar v => .ok (.scalar v)
  | .slot s => t.launchArg s

/-- Launch the kernel of a task. -/
def launch (node : String) (k : Kernel) (args : List TaskArg) : Step GraphError Site Unit := do
  Step.each (Action.task k args).slots fun s => do
    let _ ← inNode node .launch (Workspace.ensureAllocated s)
  let p ← inNode node .launch (Workspace.onContext (Context.compile k))
  let table := (← get).graph.table
  let given ← (Step.lift (args.mapM (launchArg table))).mapError (nodeError node .launch)
  let _ ← inNode node .launch (Workspace.onDevice (Device.launch p.kernel given))

/-- Carry out an action. The result is the number of bytes copied. -/
def perform (node : String) : Action → Step GraphError Site Nat
  | .streamIn slots => transferIn node true slots
  | .copyIn slots => transferIn node false slots
  | .task k args => do
    launch node k args
    return 0
  | .streamOut slots => transferOut node slots
  | .barrier => do
    inNode node .launch (Workspace.onDevice Device.synchronize)
    return 0

/-- Carry out nodes in order and record each that is completed. -/
def runNodes (run : Nat) : List Node → Step GraphError Site Unit
  | [] => pure ()
  | n :: r => do
    let node := (← get).graph.qualified n.name
    let bytes ← perform node n.action
    update fun g => { g with profile := g.profile.record ⟨node, n.action.kind, run, bytes⟩ }
    runNodes run r

/-- Carry out all nodes and wait for the device. -/
def runAll (run : Nat) : Step GraphError Site Unit := do
  let g := (← get).graph
  runNodes run g.nodes
  inNode (g.qualified "synchronize") .launch (Workspace.onDevice Device.synchronize)

/-- Run a graph. The result is the number of the run among the successful ones. Whether the run
is successful or not, the graph is idle afterwards. -/
def execute : Step GraphError Site Nat := do
  ensureLive
  let run := (← get).graph.runs + 1
  update fun g => { g with phase := .executing }
  let outcome ← (runAll run).attempt
  update fun g => { g with phase := .idle }
  Step.lift outcome
  update fun g => { g with runs := run }
  return run

/-- Allocate memory and compile kernels for a node. -/
def warmNode (n : Node) : Step GraphError Site Unit := do
  let node := (← get).graph.qualified n.name
  Step.each n.action.slots fun s => do
    let _ ← inNode node .transfer (Workspace.ensureAllocated s)
  match n.action with
  | .task k _ =>
    let _ ← inNode node .launch (Workspace.onContext (Context.compile k))
  | _ => pure ()

/-- Allocate memory and compile kernels for all nodes. -/
def warmup : Step GraphError Site Unit := do
  ensureLive
  Step.each (← get).graph.nodes warmNode
  update fun g =>
    if g.phase = .unbuilt ∨ g.phase = .built then { g with phase := .warmed } else g

/-- Copy buffers to the host now. -/
def synchronize (buffers : List HostId) : Step GraphError Site Unit := do
  ensureLive
  let g := (← get).graph
  let node := g.qualified "sync_objects"
  let slots ← Step.lift (g.boundSlots node buffers)
  Step.each slots fun s =>
    (Site.onWorkspace (Workspace.download s)).mapError (.transferFailure node)

end Offload.Graph
