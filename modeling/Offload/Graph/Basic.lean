import Offload.Graph.Error
import Offload.Graph.Profile
import Offload.SlotTable
import Offload.Text.Quoted

/-!
# Task graphs

A graph is a list of nodes that are carried out in order: copies to the device, launches, and
copies back. It is built once and can be run any number of times. Nodes refer to buffers by
slot, so a buffer can be exchanged without building the graph again.

What a kernel reads must have been made available by an earlier node. The functions that add
nodes check this, and all else that can be known about the arguments of a task, before they
change anything.

* `Graph.streamIn`, `Graph.copyIn`, `Graph.streamOut` — add copies.
* `Graph.task` — adds a launch.
* `Graph.rebind` — exchanges a buffer.
* `Graph.dispose` — gives up all device memory; after that the graph refuses everything.
-/

namespace Offload

/-- What a task passes to its kernel. -/
inductive TaskArg where
  /-- a single value -/
  | scalar (value : Scalar)
  /-- the device memory of a slot -/
  | slot (s : SlotId)
deriving DecidableEq

/-- What a caller passes to a task. -/
inductive Arg where
  /-- a single value -/
  | scalar (value : Scalar)
  /-- a host buffer -/
  | buffer (h : HostId)
deriving DecidableEq

/-- What a node does. -/
inductive Action where
  /-- copy to the device on every run -/
  | streamIn (slots : List SlotId)
  /-- copy to the device what is stale -/
  | copyIn (slots : List SlotId)
  /-- launch a kernel -/
  | task (kernel : Kernel) (args : List TaskArg)
  /-- copy to the host on every run -/
  | streamOut (slots : List SlotId)
  /-- wait for the device -/
  | barrier

namespace Action

/-- The kind of action. -/
def kind : Action → NodeKind
  | streamIn _ => .streamIn
  | copyIn _ => .copyIn
  | task _ _ => .task
  | streamOut _ => .streamOut
  | barrier => .barrier

/-- The slots that the action is about, in order. -/
def slots : Action → List SlotId
  | streamIn ss | copyIn ss | streamOut ss => ss
  | task _ args => args.filterMap fun
    | .slot s => some s
    | .scalar _ => none
  | barrier => []

end Action

/-- One step of a graph. -/
structure Node where
  /-- the name of the node in its graph -/
  name : String
  /-- what the node does -/
  action : Action

/-- How far a graph has come. -/
inductive Phase where
  /-- it has no nodes -/
  | unbuilt
  /-- it has nodes -/
  | built
  /-- its memory was allocated and its kernels were compiled in advance -/
  | warmed
  /-- it is running -/
  | executing
  /-- it has been run, with success or without -/
  | idle
  /-- it was disposed of -/
  | disposed
deriving DecidableEq

/-- The name of the phase. -/
def Phase.name : Phase → String
  | unbuilt => "Unbuilt"
  | built => "Built"
  | warmed => "Warmed"
  | executing => "Executing"
  | idle => "Idle"
  | disposed => "Disposed"

/-- A list of nodes with what they work on. -/
structure Graph where
  /-- the name -/
  name : String
  /-- the slots of its buffers -/
  table : SlotTable
  /-- the nodes in order -/
  nodes : List Node
  /-- how far it has come -/
  phase : Phase
  /-- what was completed -/
  profile : Profile
  /-- how many runs were successful -/
  runs : Nat

/-- A graph on its machine. -/
structure Site where
  /-- the machine -/
  machine : Machine
  /-- the graph -/
  graph : Graph

namespace Site

/-- The slots of the graph on its machine. -/
def workspace (s : Site) : Workspace := ⟨s.machine, s.graph.table⟩

/-- Put the slots back into the graph. -/
def setWorkspace (s : Site) (w : Workspace) : Site :=
  ⟨w.machine, { s.graph with table := w.table }⟩

/-- A step on the slots of the graph. -/
def onWorkspace {α : Type} (m : Step DeviceError Workspace α) : Step DeviceError Site α :=
  m.on workspace fun w s => s.setWorkspace w

end Site

namespace Graph

/-- A graph without nodes. -/
def empty (name : String) : Graph := ⟨name, .empty, [], .unbuilt, .empty, 0⟩

/-- The name of one of its nodes together with its own. -/
def qualified (g : Graph) (node : String) : String := g.name ++ "." ++ node

/-- The graph on a device, as a record. -/
def description (g : Graph) (t : Target) : String :=
  "TaskGraph \x7b name: " ++ Text.quoted g.name ++ ", device: " ++ t.description ++ ", state: " ++
    g.phase.name ++ ", nodes: " ++ Decimal.text g.nodes.length ++ ", execution_count: " ++
    Decimal.text g.runs ++ " \x7d"

/-- The name of the next node, if it has no name of its own. -/
def nextName (g : Graph) (k : NodeKind) : String :=
  k.name ++ "." ++ Decimal.text g.nodes.length

/-- Add a node. -/
def push (g : Graph) (name : String) (a : Action) : Graph :=
  { g with
    nodes := g.nodes ++ [⟨name, a⟩]
    phase := if g.phase = .unbuilt then .built else g.phase }

/-- Change the graph. -/
def update (f : Graph → Graph) : Step GraphError Site Unit :=
  modify fun s => { s with graph := f s.graph }

/-- Refuse to go on with a graph that was disposed of. -/
def ensureLive : Step GraphError Site Unit := do
  let g := (← get).graph
  if g.phase = .disposed then throw (.disposed g.name)

/-- The slots of buffers that all have one. -/
def boundSlots (g : Graph) (node : String) (buffers : List HostId) :
    Except GraphError (List SlotId) :=
  buffers.mapM fun h => match g.table.slotOf? h with
    | some s => .ok s
    | none => .error (.unboundBuffer node h)

/-! ### Adding nodes -/

/-- Make slots for buffers as far as they have none, and add a node about them. -/
def addBinding (kind : NodeKind) (action : List SlotId → Action) (buffers : List HostId) :
    Step GraphError Site Unit := do
  ensureLive
  update fun g =>
    let (slots, table) := g.table.bindAll buffers
    { g with table }.push (g.nextName kind) (action slots)

/-- Copy buffers to the device on every run. -/
def streamIn (buffers : List HostId) : Step GraphError Site Unit :=
  addBinding .streamIn .streamIn buffers

/-- Copy buffers to the device when device memory is stale. -/
def copyIn (buffers : List HostId) : Step GraphError Site Unit :=
  addBinding .copyIn .copyIn buffers

/-- Copy buffers back to the host on every run. -/
def streamOut (buffers : List HostId) : Step GraphError Site Unit := do
  ensureLive
  let g := (← get).graph
  let name := g.nextName .streamOut
  let slots ← Step.lift (g.boundSlots (g.qualified name) buffers)
  update (·.push name (.streamOut slots))

/-- Wait for the device. -/
def barrier : Step GraphError Site Unit := do
  ensureLive
  update fun g => g.push (g.nextName .barrier) .barrier

/-- Check an argument of a task against the parameter at its index. -/
def checkArg (s : Site) (node : String) (index : Nat) : Param → Arg → Except GraphError Unit
  | .scalar t, .scalar v =>
    if t = v.type then .ok () else .error (.invalidTask node (.scalarType index t v.type))
  | .buffer t access, .buffer h =>
    let actual := (s.machine.hosts.get h).type
    if t ≠ actual then .error (.invalidTask node (.bufferType index t actual))
    else if access.reads && (s.graph.table.slotOf? h).isNone then .error (.unboundBuffer node h)
    else .ok ()
  | p, _ => .error (.invalidTask node (.mismatch index p))

/-- Check arguments of a task from an index on, up to the first that does not fit. -/
def checkArgsFrom (s : Site) (node : String) (index : Nat) :
    List Param → List Arg → Except GraphError Unit
  | p :: ps, a :: as => do
    checkArg s node index p a
    checkArgsFrom s node (index + 1) ps as
  | _, _ => .ok ()

/-- Check the arguments of a task: their number, then each in order. -/
def checkArgs (s : Site) (node : String) (k : Kernel) (args : List Arg) :
    Except GraphError Unit :=
  if args.length ≠ k.params.length then
    .error (.invalidTask node (.argumentCount k.name k.params.length args.length))
  else checkArgsFrom s node 0 k.params args

/-- The arguments of a task with slots in place of buffers. -/
def bindArgs (t : SlotTable) : List Arg → List TaskArg × SlotTable
  | [] => ([], t)
  | .scalar v :: r =>
    let (args, t) := bindArgs t r
    (.scalar v :: args, t)
  | .buffer h :: r =>
    let (s, t) := t.bind h
    let (args, t) := bindArgs t r
    (.slot s :: args, t)

/-- Launch a kernel. Buffers that it reads must have slots; those that it only writes get one
where they have none. -/
def task (name : String) (k : Kernel) (args : List Arg) : Step GraphError Site Unit := do
  ensureLive
  let s ← get
  Step.lift (checkArgs s (s.graph.qualified name) k args)
  update fun g =>
    let (bound, table) := bindArgs g.table args
    { g with table }.push name (.task k bound)

/-! ### Exchanging buffers -/

/-- Exchange a buffer for another one in all nodes. -/
def rebind (old new : HostId) : Step GraphError Site Unit := do
  ensureLive
  let g := (← get).graph
  let _ ← (Site.onWorkspace (Workspace.rebind old new)).mapError fun
    | .unboundBuffer h => .unboundBuffer (g.qualified "update_reference") h
    | e => .incompatibleReference g.name e

/-! ### The profile -/

/-- What was completed since the profile was cleared. -/
def samples : Step GraphError Site (Array Sample) := do
  ensureLive
  return (← get).graph.profile.samples

/-- The profile as text, given what the clock has measured. -/
def profileText : Step GraphError Site ((Nat → Timing) → String) := do
  ensureLive
  let g := (← get).graph
  return g.profile.text g.name

/-- Forget what was completed. -/
def clearProfile : Step GraphError Site Unit := do
  ensureLive
  update fun g => { g with profile := .empty }

/-! ### The end -/

/-- Give up all device memory of a graph. -/
def releaseAll (s : Site) : Site :=
  s.setWorkspace s.workspace.releaseAll

/-- Give up all device memory of a graph and do nothing with it any more. -/
def dispose (s : Site) : Site :=
  if s.graph.phase = .disposed then s
  else { releaseAll s with graph.phase := .disposed }

end Graph

end Offload
