import Offload.Proofs.Fleet

/-!
# Other compilers

A device is handed over together with its compiler, and what a graph does with programs does not
depend on which one that is. Here the compiler is a parameter. It may fail whenever it is called,
whatever it has said before.

* `Compiler` — what comes of a kernel, after the calls that there were.
* `Compiler.compile` — the program of a kernel, compiled on first use.
* `Graph.executeBy`, `Graph.warmupBy` — runs, and what comes before them, where programs come from
  somewhere.
* `Fleet.performAllBy` — what fleets do whose devices have compilers of their own;
  `Fleet.performAllBy_host` says that nothing is new about the compiler for the host.
-/

namespace Offload

open Step

/-! ### Compilers -/

/-- A compiler. What it says may depend on all calls so far, so that it may fail at any of them. -/
structure Compiler where
  /-- whether there is a program of a kernel for a target -/
  answer : Array CompilerCall → Kernel → Target → Except DeviceError Unit

namespace Compiler

/-- The compiler for the host. -/
def host : Compiler := ⟨fun _ => Kernel.compilable⟩

/-- Make a new program from a kernel. -/
def invoke (x : Compiler) (k : Kernel) (t : Target) : Step DeviceError Context Program := fun c =>
  match x.answer c.calls k t with
  | .ok () => (.ok ⟨c.issued, k⟩,
      { c with issued := c.issued + 1, calls := c.calls.push ⟨⟨k.id, t⟩, true⟩ })
  | .error e => (.error e, { c with calls := c.calls.push ⟨⟨k.id, t⟩, false⟩ })

/-- The program of a kernel for the device. -/
def compile (x : Compiler) (k : Kernel) : Step DeviceError Context Program := do
  let t := (← get).device.target
  Context.getOrCompile ⟨k.id, t⟩ (x.invoke k t)

theorem invoke_host : host.invoke = Context.invoke := by
  funext k t c
  have hanswer : host.answer c.calls k t = k.compilable t := rfl
  rw [invoke, hanswer, Context.invoke, Context.generate]
  rcases k.compilable t with e | u <;> rfl

theorem compile_host : host.compile = Context.compile := by
  funext k
  rw [compile, invoke_host]
  rfl

/-- A program that is there is used. Otherwise the compiler is called, once. -/
theorem compile_apply (x : Compiler) (k : Kernel) (c : Context) :
    x.compile k c =
      match c.program? ⟨k.id, c.device.target⟩ with
      | some p => (.ok p, c)
      | none => match x.answer c.calls k c.device.target with
        | .ok () => (.ok ⟨c.issued, k⟩,
            ({ c with
              issued := c.issued + 1
              calls := c.calls.push ⟨⟨k.id, c.device.target⟩, true⟩ } : Context).insert
                ⟨k.id, c.device.target⟩ ⟨c.issued, k⟩)
        | .error e => (.error e,
            { c with calls := c.calls.push ⟨⟨k.id, c.device.target⟩, false⟩ }) := by
  rw [compile, bind_apply, get_apply]
  dsimp only
  rw [Context.getOrCompile, bind_apply, get_apply]
  dsimp only
  rcases hp : c.program? ⟨k.id, c.device.target⟩ with _ | p
  · dsimp only
    rw [bind_apply, invoke]
    rcases x.answer c.calls k c.device.target with e | u
    · rfl
    · dsimp only
      rw [bind_apply, get_apply]
      dsimp only
      -- the calls have no bearing on the programs
      rw [show Context.program? { c with
        issued := c.issued + 1
        calls := c.calls.push ⟨⟨k.id, c.device.target⟩, true⟩ } _ = none from hp]
      rfl
  · rfl

end Compiler

/-! ### Graphs -/

namespace Graph

/-- Make room for slots. -/
def makeRoom (node : String) (stage : Stage) (slots : List SlotId) :
    Step GraphError Site Unit :=
  Step.each slots fun slot => do
    let _ ← inNode node stage (Workspace.ensureAllocated slot)

/-- Launch a kernel for a task, whose slots have room. -/
def launchGiven (node : String) (k : Kernel) (args : List TaskArg) :
    Step GraphError Site Unit := do
  let table := (← get).graph.table
  let given ← (Step.lift (args.mapM (launchArg table))).mapError (nodeError node .launch)
  let _ ← inNode node .launch (Workspace.onDevice (Device.launch k given))

variable (compile : Kernel → Step DeviceError Context Program)

/-- Launch the kernel of the program that comes from `compile`. -/
def launchBy (node : String) (k : Kernel) (args : List TaskArg) : Step GraphError Site Unit := do
  makeRoom node .launch (Action.task k args).slots
  let p ← inNode node .launch (Workspace.onContext (compile k))
  launchGiven node p.kernel args

/-- Launch the kernel itself, once there is a program. -/
def launchOwn (node : String) (k : Kernel) (args : List TaskArg) : Step GraphError Site Unit := do
  makeRoom node .launch (Action.task k args).slots
  let _ ← inNode node .launch (Workspace.onContext (compile k))
  launchGiven node k args

/-- Carry out an action. -/
def performBy (node : String) : Action → Step GraphError Site Nat
  | .task k args => do
    launchBy compile node k args
    return 0
  | a => perform node a

/-- Carry out a node and record it. -/
def runNodeBy (run : Nat) (n : Node) : Step GraphError Site Unit := do
  let node := (← get).graph.qualified n.name
  let bytes ← performBy compile node n.action
  update (completed node n run bytes)

/-- Carry out all nodes and wait for the device. -/
def runAllBy (run : Nat) : Step GraphError Site Unit := do
  let g := (← get).graph
  Step.each g.nodes (runNodeBy compile run)
  inNode (g.qualified "synchronize") .launch (Workspace.onDevice Device.synchronize)

/-- Run a graph. -/
def executeBy : Step GraphError Site Nat := do
  ensureLive
  let run := (← get).graph.runs + 1
  update fun g => { g with phase := .executing }
  let outcome ← (runAllBy compile run).attempt
  update fun g => { g with phase := .idle }
  Step.lift outcome
  update fun g => { g with runs := run }
  return run

/-- Allocate memory and get hold of the program for a node. -/
def warmNodeBy (n : Node) : Step GraphError Site Unit := do
  let node := (← get).graph.qualified n.name
  makeRoom node .transfer n.action.slots
  match n.action with
  | .task k _ =>
    let _ ← inNode node .launch (Workspace.onContext (compile k))
  | _ => pure ()

/-- Allocate memory and get hold of programs for all nodes. -/
def warmupBy : Step GraphError Site Unit := do
  ensureLive
  Step.each (← get).graph.nodes (warmNodeBy compile)
  update fun g =>
    if g.phase = .unbuilt ∨ g.phase = .built then { g with phase := .warmed } else g

/-! ### Programs that come from the context -/

theorem performBy_compile : performBy Context.compile = perform := by
  funext node a
  cases a <;> rfl

theorem runNodeBy_compile : runNodeBy Context.compile = runNode := by
  funext run n
  rw [runNodeBy, performBy_compile]
  rfl

theorem runAllBy_compile : runAllBy Context.compile = runAll := by
  funext run s
  rw [runAll_apply, runAllBy, runNodeBy_compile]
  rfl

theorem executeBy_compile : executeBy Context.compile = execute := by
  rw [executeBy, runAllBy_compile]
  rfl

theorem warmupBy_compile : warmupBy Context.compile = warmup := rfl

end Graph

/-! ### Fleets -/

/-- Carry out a call, where programs come from `compile`. -/
def Command.runBy (compile : Kernel → Step DeviceError Context Program) :
    Command → Step GraphError Site Nat
  | warmup => do Graph.warmupBy compile; return 0
  | execute => Graph.executeBy compile
  | c => c.run

theorem Command.runBy_compile (c : Command) : c.runBy Context.compile = c.run := by
  cases c with
  | warmup => rw [runBy, run, Graph.warmupBy_compile]
  | execute => exact Graph.executeBy_compile
  | _ => rfl

/-- A call that does not look for programs does not depend on where they come from. -/
theorem Command.runBy_of_ne {compile : Kernel → Step DeviceError Context Program} {c : Command}
    (hw : c ≠ .warmup) (he : c ≠ .execute) : c.runBy compile = c.run := by
  cases c with
  | warmup => exact absurd rfl hw
  | execute => exact absurd rfl he
  | _ => rfl

section

variable {ι δ : Type} [DecidableEq ι] [DecidableEq δ]

/-- Carry out a request, where each device has its own compiler. -/
def Request.performBy (x : δ → Compiler) : Request ι δ → Step GraphError (Fleet ι δ) Nat
  | call u c => fun f =>
    ((c.runBy (x (f.home u)).compile (f.site u)).1,
      f.setSite u (c.runBy (x (f.home u)).compile (f.site u)).2)
  | host a => (host a).perform
  | configure d faults capacity => (configure d faults capacity).perform

namespace Fleet

/-- Carry out requests one after the other, whether they succeed or not, where each device has its
own compiler. -/
def performAllBy (x : δ → Compiler) :
    List (Request ι δ) → Fleet ι δ → List (Except GraphError Nat) × Fleet ι δ
  | [], f => ([], f)
  | r :: rs, f =>
    let (o, f) := r.performBy x f
    let (os, f) := performAllBy x rs f
    (o :: os, f)

theorem performBy_host (r : Request ι δ) :
    r.performBy (fun _ => Compiler.host) = r.perform := by
  cases r with
  | call u c =>
    have hrun : c.runBy Compiler.host.compile = c.run := by
      rw [Compiler.compile_host, Command.runBy_compile]
    funext f
    simp only [Request.performBy, Request.perform, hrun]
  | _ => rw [Request.performBy]

/-- Devices with the compiler for the host are those that there always were. -/
theorem performAllBy_host (rs : List (Request ι δ)) (f : Fleet ι δ) :
    performAllBy (fun _ => .host) rs f = performAll rs f := by
  induction rs generalizing f with
  | nil => rfl
  | cons r rs ih =>
    simp only [performAllBy, performAll, performBy_host, ih]

end Fleet

end

end Offload
