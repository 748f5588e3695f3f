import Offload.Proofs.Building

/-!
# Going through a graph

A run goes from node to node, and a node from slot to slot. Whatever its steps have in common,
the whole run has.

* `Graph.execute_apply`, `Graph.runAll_apply`, `Graph.warmup_apply` — a run, or what comes before
  it, in one piece.
* `Site.Admits`, `Site.Allows` — a relation between sites that leaves room for all that is done to
  some slots, the second one for what is done to the graph as well.
* `Site.Allows.execute`, `Site.Allows.warmup`, `Site.Admits.synchronize` — it leaves room for
  whatever a graph does with its nodes then, if those are about these slots.
* `Site.OnlySlots`, `Site.OnlyRecords` — how little of a graph changes while it runs.
-/

namespace Offload

open Step

/-- The site with its graph changed. -/
def Site.withGraph (f : Graph → Graph) (s : Site) : Site := { s with graph := f s.graph }

/-- The graph with a run under way. -/
def Site.begun (s : Site) : Site := s.withGraph ({ · with phase := .executing })

namespace Graph

/-! ### Runs in one piece -/

theorem inNode_apply {α : Type} (node : String) (stage : Stage)
    (m : Step DeviceError Workspace α) (s : Site) :
    inNode node stage m s =
      ((m s.workspace).1.mapError (nodeError node stage), s.setWorkspace (m s.workspace).2) := rfl

/-- What succeeded for a node succeeded. -/
theorem of_inNode {α : Type} {node : String} {stage : Stage} {m : Step DeviceError Workspace α}
    {a : α} {s t : Site} (h : inNode node stage m s = (.ok a, t)) :
    m s.workspace = (.ok a, t.workspace) := by
  rw [inNode_apply] at h
  rcases hm : m s.workspace with ⟨e | a', w⟩ <;> rw [hm] at h <;> cases h
  rfl

theorem bytesIn_bind {α : Type} (slot : SlotId) (f : Nat → Step GraphError Site α) (s : Site) :
    (bytesIn slot >>= f) s = f (s.workspace.host slot).byteLen s := rfl

/-- The graph with one more node recorded as completed. -/
def completed (node : String) (n : Node) (run bytes : Nat) (g : Graph) : Graph :=
  { g with profile := g.profile.record ⟨node, n.action.kind, run, bytes⟩ }

/-- Carry out a node and record it. -/
def runNode (run : Nat) (n : Node) : Step GraphError Site Unit := do
  let node := (← get).graph.qualified n.name
  let bytes ← perform node n.action
  update (completed node n run bytes)

theorem runNode_apply (run : Nat) (n : Node) (s : Site) :
    runNode run n s =
      (perform (s.graph.qualified n.name) n.action >>= fun bytes =>
        update (completed (s.graph.qualified n.name) n run bytes)) s := rfl

theorem warmNode_apply (n : Node) (s : Site) :
    warmNode n s =
      ((Step.each n.action.slots fun slot => do
        let _ ← inNode (s.graph.qualified n.name) .transfer (Workspace.ensureAllocated slot)) >>=
          fun _ => match n.action with
            | .task k _ => do
              let _ ← inNode (s.graph.qualified n.name) .launch
                (Workspace.onContext (Context.compile k))
            | _ => pure ()) s := rfl

/-- Carrying out nodes in order is carrying out each of them. -/
theorem runNodes_eq_each (run : Nat) (ns : List Node) :
    runNodes run ns = Step.each ns (runNode run) := by
  induction ns with
  | nil => rfl
  | cons n r ih =>
    funext s
    show (perform (s.graph.qualified n.name) n.action >>= fun bytes =>
      update (completed (s.graph.qualified n.name) n run bytes) >>= fun _ => runNodes run r) s =
        (runNode run n >>= fun _ => Step.each r (runNode run)) s
    rw [ih, bind_apply (runNode run n), runNode_apply, ← bind_apply, bind_assoc]

theorem runAll_apply (run : Nat) (s : Site) :
    runAll run s =
      (Step.each s.graph.nodes (runNode run) >>= fun _ =>
        inNode (s.graph.qualified "synchronize") .launch
          (Workspace.onDevice Device.synchronize)) s := by
  rw [← runNodes_eq_each]
  rfl

/-- A graph that was disposed of refuses, and any other goes on. -/
theorem ensureLive_bind {α : Type} (m : Step GraphError Site α) (s : Site) :
    (ensureLive >>= fun _ => m) s =
      if s.graph.phase = .disposed then (.error (.disposed s.graph.name), s) else m s := by
  by_cases h : s.graph.phase = .disposed
  · have hlive : ensureLive s = (.error (.disposed s.graph.name), s) := by
      rw [ensureLive, bind_apply, get_apply]
      dsimp only
      rw [if_pos h]
      rfl
    rw [bind_of_error hlive, if_pos h]
  · have hlive : ensureLive s = (.ok (), s) := by
      rw [ensureLive, bind_apply, get_apply]
      dsimp only
      rw [if_neg h]
      rfl
    rw [bind_of_ok hlive, if_neg h]

/-- Allocating and compiling in advance, in one piece. -/
theorem warmup_apply (s : Site) :
    warmup s =
      if s.graph.phase = .disposed then (.error (.disposed s.graph.name), s)
      else (Step.each s.graph.nodes warmNode >>= fun _ => update fun g =>
        if g.phase = .unbuilt ∨ g.phase = .built then { g with phase := .warmed } else g) s := by
  rw [warmup, ensureLive_bind]
  rfl

/-- A run in one piece. -/
theorem execute_apply (s : Site) :
    execute s =
      if s.graph.phase = .disposed then (.error (.disposed s.graph.name), s)
      else match runAll (s.graph.runs + 1) (s.withGraph ({ · with phase := .executing })) with
        | (.ok _, s') => (.ok (s.graph.runs + 1),
            s'.withGraph ({ · with phase := .idle, runs := s.graph.runs + 1 }))
        | (.error e, s') => (.error e, s'.withGraph ({ · with phase := .idle })) := by
  rw [execute, ensureLive_bind]
  split
  · rfl
  · rw [bind_apply, get_apply]
    dsimp only
    rw [bind_apply, update, modify_apply]
    dsimp only
    rw [bind_apply, attempt_apply]
    dsimp only
    rw [Site.withGraph]
    rcases runAll (s.graph.runs + 1) _ with ⟨e | u, s'⟩ <;> rfl

end Graph

/-! ### What the steps have in common -/

/-- A change of a graph that leaves its name, its nodes and its slots alone, and does not dispose
of it. -/
structure Graph.Minor (f : Graph → Graph) : Prop where
  /-- the name -/
  name : ∀ g, (f g).name = g.name
  /-- the nodes -/
  nodes : ∀ g, (f g).nodes = g.nodes
  /-- the slots -/
  table : ∀ g, (f g).table = g.table
  /-- what is not disposed of goes on -/
  live : ∀ g, g.phase ≠ .disposed → (f g).phase ≠ .disposed

/-- The end of a run is a minor change. -/
theorem Graph.minor_phase {phase : Phase} (h : phase ≠ .disposed) :
    Minor ({ · with phase }) := ⟨fun _ => rfl, fun _ => rfl, fun _ => rfl, fun _ _ => h⟩

/-- `K` leaves room for everything that is done to the slots for which `T` holds, and for copies to
the host of those for which `N` holds, apart from tasks. -/
structure Site.Admits (K : Site → Site → Prop) (T N : SlotId → Prop) : Prop where
  /-- nothing need be done -/
  refl : ∀ s, K s s
  /-- one thing may be done after the other -/
  trans : ∀ s s' s'', K s s' → K s' s'' → K s s''
  /-- making room -/
  ensureAllocated : ∀ slot, T slot →
    Follows K (Site.onWorkspace (Workspace.ensureAllocated slot))
  /-- a copy to the device -/
  upload : ∀ slot, T slot → Follows K (Site.onWorkspace (Workspace.upload slot))
  /-- a copy to the host -/
  download : ∀ slot, N slot → Follows K (Site.onWorkspace (Workspace.download slot))
  /-- waiting for the device -/
  wait : Follows K (Site.onWorkspace (Workspace.onDevice Device.synchronize))

/-- `K` leaves room for minor changes of a graph as well. -/
structure Site.Allows (K : Site → Site → Prop) (T : SlotId → Prop) : Prop
    extends Site.Admits K T T where
  /-- a change of the graph -/
  graph : ∀ f, Graph.Minor f → ∀ s : Site, K s (s.withGraph f)

namespace Site.Admits

open Offload.Graph

variable {K : Site → Site → Prop} {T N : SlotId → Prop} {slots : List SlotId}

theorem bind {ε α β : Type} (hK : Admits K T N) {m : Step ε Site α} {f : α → Step ε Site β}
    (hm : Follows K m) (hf : ∀ a, Follows K (f a)) : Follows K (m >>= f) := hm.bind hK.trans hf

theorem pure {ε α : Type} (hK : Admits K T N) (a : α) : Follows K (pure a : Step ε Site α) :=
  .pure hK.refl a

theorem makeRoom (hK : Admits K T N) (hT : ∀ slot ∈ slots, T slot) (node : String)
    (stage : Stage) : Follows K (Step.each slots fun slot => do
      let _ ← inNode node stage (Workspace.ensureAllocated slot)) :=
  .each hK.refl hK.trans fun slot hslot =>
    hK.bind ((hK.ensureAllocated slot (hT slot hslot)).mapError _) fun _ => hK.pure ()

theorem transferIn (hK : Admits K T N) (hT : ∀ slot ∈ slots, T slot) (node : String)
    (always : Bool) : Follows K (transferIn node always slots) := by
  induction slots with
  | nil => exact hK.pure 0
  | cons slot r ih =>
    have hslot := hT slot List.mem_cons_self
    have hrest := ih fun x hx => hT x (List.mem_cons_of_mem _ hx)
    refine hK.bind ((hK.ensureAllocated slot hslot).mapError _) fun _ => .get_bind ?_
    intro s
    exact Follows.ite (hK.bind ((hK.upload slot hslot).mapError _) fun _ =>
      hK.bind (.get_bind fun s => hK.refl s) fun _ => hK.bind hrest fun _ => hK.pure _) hrest s

theorem transferOut (hK : Admits K T N) (hN : ∀ slot ∈ slots, N slot) (node : String) :
    Follows K (transferOut node slots) := by
  induction slots with
  | nil => exact hK.pure 0
  | cons slot r ih =>
    have hrest := ih fun x hx => hN x (List.mem_cons_of_mem _ hx)
    exact hK.bind ((hK.download slot (hN slot List.mem_cons_self)).mapError _) fun _ =>
      hK.bind (.get_bind fun s => hK.refl s) fun _ => hK.bind hrest fun _ => hK.pure _

/-- A task is allowed, if it is about slots of `T`, and compiling and launching are. -/
theorem launch (hK : Admits K T N) {k : Kernel} {args : List TaskArg}
    (hT : ∀ slot ∈ (Action.task k args).slots, T slot) (node : String)
    (hcompile : Follows K (Site.onWorkspace (Workspace.onContext (Context.compile k))))
    (hdevice : ∀ (s : Site) (p : Program) (given : List LaunchArg),
      args.mapM (launchArg s.graph.table) = .ok given →
      K s (Site.onWorkspace (Workspace.onDevice (Device.launch p.kernel given)) s).2) :
    Follows K (Graph.launch node k args) := by
  refine hK.bind (hK.makeRoom hT node .launch) fun _ => hK.bind (hcompile.mapError _) fun p =>
    .get_bind fun s => ?_
  rcases hgiven : args.mapM (launchArg s.graph.table) with e | given
  · exact hK.refl s
  · have hrun := hdevice s p given hgiven
    exact (snd_bind_pure (inNode node .launch
      (Workspace.onDevice (Device.launch p.kernel given))) () s).symm ▸ hrun

/-- What a node does is allowed, if it is about slots of `T`, and of `N` if it copies to the host,
and allowed if it is a task. -/
theorem perform (hK : Admits K T N) {a : Action} (hT : ∀ slot ∈ a.slots, T slot)
    (hN : ∀ slots, a = .streamOut slots → ∀ slot ∈ slots, N slot) (node : String)
    (hlaunch : ∀ k args, a = .task k args → Follows K (Graph.launch node k args)) :
    Follows K (perform node a) := by
  cases a with
  | streamIn slots => exact hK.transferIn hT node true
  | copyIn slots => exact hK.transferIn hT node false
  | task k args => exact hK.bind (hlaunch k args rfl) fun _ => hK.pure 0
  | streamOut slots => exact hK.transferOut (hN slots rfl) node
  | barrier => exact hK.bind (hK.wait.mapError _) fun _ => hK.pure 0

theorem warmNode (hK : Admits K T N) {n : Node} (hT : ∀ slot ∈ n.action.slots, T slot)
    (hcompile : ∀ k args, n.action = .task k args →
      Follows K (Site.onWorkspace (Workspace.onContext (Context.compile k)))) :
    Follows K (warmNode n) := by
  refine .get_bind fun s => hK.bind (hK.makeRoom hT _ .transfer) ?_ s
  intro _
  cases h : n.action with
  | task k args => exact hK.bind ((hcompile k args h).mapError _) fun _ => hK.pure ()
  | _ => exact hK.pure ()

/-- Allocating and compiling in advance, where minor changes of the graph are allowed. -/
theorem warmup (hK : Admits K T N) {s : Site}
    (hgraph : ∀ f, Graph.Minor f → ∀ s : Site, K s (s.withGraph f))
    (hT : ∀ n ∈ s.graph.nodes, ∀ slot ∈ n.action.slots, T slot)
    (hcompile : ∀ n ∈ s.graph.nodes, ∀ k args, n.action = .task k args →
      Follows K (Site.onWorkspace (Workspace.onContext (Context.compile k)))) :
    K s (warmup s).2 := by
  rw [Graph.warmup, ensureLive_bind]
  split
  · exact hK.refl s
  · have hmark : Minor fun g =>
        if g.phase = .unbuilt ∨ g.phase = .built then { g with phase := .warmed } else g := by
      constructor <;> intro g <;> split <;> simp
    have hall : Follows K (do
        Step.each s.graph.nodes Graph.warmNode
        Graph.update fun g =>
          if g.phase = .unbuilt ∨ g.phase = .built then { g with phase := .warmed } else g) :=
      hK.bind (.each hK.refl hK.trans fun n hn => hK.warmNode (hT n hn) (hcompile n hn)) fun _ =>
        hgraph _ hmark
    exact hall s

/-- Copying buffers to the host outside a run. -/
theorem synchronize (hK : Admits K T N) {s : Site} {buffers : List HostId}
    (hN : ∀ h ∈ buffers, ∀ slot, s.graph.table.slotOf? h = some slot → N slot) :
    K s (synchronize buffers s).2 := by
  rw [Graph.synchronize, ensureLive_bind]
  split
  · exact hK.refl s
  · rw [bind_apply, get_apply]
    dsimp only
    rw [bind_apply, lift_apply]
    rcases hslots : s.graph.boundSlots (s.graph.qualified "sync_objects") buffers with e | slots
    · exact hK.refl s
    · have hall : Follows K (Step.each slots fun slot =>
          (Site.onWorkspace (Workspace.download slot)).mapError
            (GraphError.transferFailure (s.graph.qualified "sync_objects"))) := by
        refine .each hK.refl hK.trans fun slot hslot => ?_
        obtain ⟨h, hh, hs⟩ := mem_boundSlots hslots hslot
        exact (hK.download slot (hN h hh slot hs)).mapError _
      exact hall s

end Site.Admits

namespace Site.Allows

open Offload.Graph

variable {K : Site → Site → Prop} {T : SlotId → Prop}

theorem update (hK : Allows K T) {f : Graph → Graph} (hf : Graph.Minor f) :
    Follows K (update f) := hK.graph f hf

theorem runNode (hK : Allows K T) {n : Node} (hT : ∀ slot ∈ n.action.slots, T slot) (run : Nat)
    (hlaunch : ∀ node k args, n.action = .task k args → Follows K (launch node k args)) :
    Follows K (runNode run n) := by
  have hN : ∀ slots, n.action = .streamOut slots → ∀ slot ∈ slots, T slot := by
    intro slots h slot hslot
    exact hT slot (by rwa [h])
  refine .get_bind fun s => hK.bind (hK.perform hT hN _ (hlaunch _)) ?_ s
  intro _
  exact hK.update ⟨fun _ => rfl, fun _ => rfl, fun _ => rfl, fun _ h => h⟩

/-- A run, however it ends. -/
theorem execute (hK : Allows K T) {s : Site} (hT : ∀ n ∈ s.graph.nodes, ∀ slot ∈ n.action.slots,
    T slot) (hlaunch : ∀ n ∈ s.graph.nodes, ∀ node k args, n.action = .task k args →
      Follows K (launch node k args)) : K s (execute s).2 := by
  have hphase : ∀ phase, phase ≠ .disposed → ∀ s : Site, K s (s.withGraph ({ · with phase })) :=
    fun _ h => hK.graph _ (minor_phase h)
  have hdone : ∀ runs, Minor ({ · with phase := .idle, runs }) := fun _ =>
    ⟨fun _ => rfl, fun _ => rfl, fun _ => rfl, fun _ _ => nofun⟩
  have hrun : Follows K (do
      Step.each s.graph.nodes (Graph.runNode (s.graph.runs + 1))
      inNode (s.graph.qualified "synchronize") .launch (Workspace.onDevice Device.synchronize)) :=
    hK.bind (.each hK.refl hK.trans fun n hn => hK.runNode (hT n hn) _ (hlaunch n hn)) fun _ =>
      hK.wait.mapError _
  rw [execute_apply]
  split
  · exact hK.refl s
  · have hall : K s (runAll (s.graph.runs + 1)
        (s.withGraph ({ · with phase := .executing }))).2 := by
      rw [runAll_apply]
      exact hK.trans _ _ _ (hphase .executing nofun s) (hrun _)
    split <;> rename_i h <;> rw [h] at hall
    · exact hK.trans _ _ _ hall (hK.graph _ (hdone _) _)
    · exact hK.trans _ _ _ hall (hphase .idle nofun _)

/-- Allocating and compiling in advance. -/
theorem warmup (hK : Allows K T) {s : Site} (hT : ∀ n ∈ s.graph.nodes, ∀ slot ∈ n.action.slots,
    T slot) (hcompile : ∀ n ∈ s.graph.nodes, ∀ k args, n.action = .task k args →
      Follows K (Site.onWorkspace (Workspace.onContext (Context.compile k)))) :
    K s (warmup s).2 :=
  hK.toAdmits.warmup hK.graph hT hcompile

end Site.Allows

/-! ### What becomes of the graph -/

/-- Of the graph, only the slots have changed. -/
def Site.OnlySlots (s s' : Site) : Prop := s'.graph = { s.graph with table := s'.graph.table }

/-- Of the graph, only the slots and the profile have changed. -/
def Site.OnlyRecords (s s' : Site) : Prop :=
  s'.graph = { s.graph with table := s'.graph.table, profile := s'.graph.profile }

namespace Site.OnlySlots

open Offload.Graph

variable {s s' s'' : Site}

theorem trans (h : OnlySlots s s') (h' : OnlySlots s' s'') : OnlySlots s s'' := by
  rw [OnlySlots] at h
  rw [OnlySlots, h', h]

theorem records (h : OnlySlots s s') : OnlyRecords s s' := by
  rw [OnlyRecords, h]

theorem name (h : OnlySlots s s') : s'.graph.name = s.graph.name := by
  rw [OnlySlots] at h
  rw [h]

theorem profile (h : OnlySlots s s') : s'.graph.profile = s.graph.profile := by
  rw [OnlySlots] at h
  rw [h]

theorem runs (h : OnlySlots s s') : s'.graph.runs = s.graph.runs := by
  rw [OnlySlots] at h
  rw [h]

/-- The slots are all that the device works on. -/
theorem admits : Admits OnlySlots (fun _ => True) fun _ => True where
  refl _ := rfl
  trans _ _ _ := trans
  ensureAllocated _ _ _ := rfl
  upload _ _ _ := rfl
  download _ _ _ := rfl
  wait _ := rfl

/-- A node leaves the rest of its graph alone. -/
theorem perform (node : String) (a : Action) : Follows OnlySlots (perform node a) :=
  admits.perform (fun _ _ => trivial) (fun _ _ _ _ => trivial) node fun _ _ _ =>
    admits.launch (fun _ _ => trivial) node (fun _ => rfl) fun _ _ _ _ => rfl

theorem warmNode (n : Node) : Follows OnlySlots (warmNode n) :=
  admits.warmNode (fun _ _ => trivial) fun _ _ _ _ => rfl

theorem warmNodes (ns : List Node) : Follows OnlySlots (each ns Graph.warmNode) :=
  .each (fun _ => rfl) @trans fun n _ => warmNode n

theorem synchronize (buffers : List HostId) : Follows OnlySlots (synchronize buffers) :=
  fun _ => admits.synchronize fun _ _ _ _ => trivial

end Site.OnlySlots

namespace Site.OnlyRecords

open Offload.Graph

variable {s s' s'' : Site}

theorem trans (h : OnlyRecords s s') (h' : OnlyRecords s' s'') : OnlyRecords s s'' := by
  rw [OnlyRecords] at h
  rw [OnlyRecords, h', h]

/-- A node that is completed is recorded. -/
theorem runNode (run : Nat) (n : Node) : Follows OnlyRecords (runNode run n) := by
  refine .get_bind fun s => ?_
  have hperform : Follows OnlyRecords (Graph.perform (s.graph.qualified n.name) n.action) :=
    fun s => (OnlySlots.perform _ n.action s).records
  have hrecord : ∀ bytes, Follows OnlyRecords
      (update (completed (s.graph.qualified n.name) n run bytes)) := fun _ _ => rfl
  exact hperform.bind @trans hrecord s

/-- Nodes are recorded as they are completed. -/
theorem runAll (run : Nat) : Follows OnlyRecords (runAll run) := by
  intro s
  have hnodes : Follows OnlyRecords (Step.each s.graph.nodes (Graph.runNode run)) :=
    .each (fun _ => rfl) @trans fun n _ => runNode run n
  have hwait : Follows OnlyRecords (inNode (s.graph.qualified "synchronize") .launch
      (Workspace.onDevice Device.synchronize)) := fun _ => rfl
  rw [runAll_apply]
  exact hnodes.bind @trans (fun _ => hwait) s

end Site.OnlyRecords

end Offload
