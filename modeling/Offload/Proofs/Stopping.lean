import Mathlib.Control.Monad.Basic
import Offload.Proofs.Accounts
import Offload.Proofs.Confinement
import Offload.Proofs.Surroundings

/-!
# Runs that fail

A run that fails has come as far as some node, or has come through and failed to wait for the
device. What it leaves behind is what the nodes before that one left behind, but for what the node
itself was working on.

* `NodeKind.Raises` — the errors of nodes; `Graph.throws_perform` says that there are no others.
* `Site.StopsAt` — where a run stops, with which error, and what it was working on there.
* `Graph.execute_error_inv` — a run that fails stops somewhere.
* `Fleet.failed_run_is_a_prefix` — the same for a fleet, with all that is to be seen of it.
-/

namespace Offload

open Step

/-! ### Errors of nodes -/

/-- The errors that a node of a kind ends with. They name the node. Want of memory and kernels that
cannot be compiled are told apart from all else, which is laid to what nodes of this kind do. -/
inductive NodeKind.Raises (node : String) : NodeKind → GraphError → Prop where
  /-- there is no device memory -/
  | memory (kind : NodeKind) (requested available : Nat) :
    Raises node kind (.deviceOutOfMemory node (.outOfMemory requested available))
  /-- a kernel cannot be compiled -/
  | compilation (kind : NodeKind) (kernel reason : String) :
    Raises node kind (.compilation node (.compilation kernel reason))
  /-- anything else, at a launch or while waiting for the device -/
  | launch {kind : NodeKind} {x : DeviceError} (hkind : kind = .task ∨ kind = .barrier)
    (hx : x.kind ≠ "OutOfMemory" ∧ x.kind ≠ "Compilation") :
    Raises node kind (.launchFailure node x)
  /-- anything else, at a copy -/
  | transfer {kind : NodeKind} {x : DeviceError}
    (hkind : kind = .streamIn ∨ kind = .copyIn ∨ kind = .streamOut)
    (hx : x.kind ≠ "OutOfMemory" ∧ x.kind ≠ "Compilation") :
    Raises node kind (.transferFailure node x)

/-- What a node of a kind is at. -/
def NodeKind.stage : NodeKind → Graph.Stage
  | task | barrier => .launch
  | streamIn | copyIn | streamOut => .transfer

namespace Graph

theorem raises_nodeError (node : String) (kind : NodeKind) (x : DeviceError) :
    kind.Raises node (nodeError node kind.stage x) := by
  cases x with
  | outOfMemory requested available => exact .memory kind requested available
  | compilation kernel reason => exact .compilation kind kernel reason
  | _ =>
    cases kind with
    | task | barrier => exact .launch (by simp) (by simp [DeviceError.kind])
    | _ => exact .transfer (by simp) (by simp [DeviceError.kind])

section

variable {α : Type} {node : String} {kind : NodeKind}

theorem throws_inNode {stage : Stage} (hs : kind.stage = stage) (m : Step DeviceError Workspace α) :
    Throws (kind.Raises node) (inNode node stage m) :=
  hs ▸ .mapError (raises_nodeError node kind)

theorem throws_transferIn (hs : kind.stage = .transfer) (always : Bool) (slots : List SlotId) :
    Throws (kind.Raises node) (transferIn node always slots) := by
  induction slots with
  | nil => exact .pure 0
  | cons slot r ih =>
    refine (throws_inNode hs _).bind fun _ => .get_bind fun s => .ite ?_ ih
    refine (throws_inNode hs _).bind fun _ => .bind ?_ fun _ => ih.bind fun _ => .pure _
    exact .get_bind fun _ => .pure _

theorem throws_transferOut (slots : List SlotId) :
    Throws (NodeKind.streamOut.Raises node) (transferOut node slots) := by
  induction slots with
  | nil => exact .pure 0
  | cons slot r ih =>
    refine (throws_inNode rfl _).bind fun _ => .bind ?_ fun _ => ih.bind fun _ => .pure _
    exact .get_bind fun _ => .pure _

theorem throws_launch (k : Kernel) (args : List TaskArg) :
    Throws (NodeKind.task.Raises node) (launch node k args) := by
  refine .bind (.each fun slot => (throws_inNode rfl _).bind fun _ => .pure ()) fun _ => ?_
  refine (throws_inNode rfl _).bind fun p => .get_bind fun s => ?_
  refine (Throws.mapError (raises_nodeError node .task)).bind fun given => ?_
  exact (throws_inNode rfl _).bind fun _ => .pure ()

/-- There are no other errors of nodes. -/
theorem throws_perform (node : String) (a : Action) :
    Throws (a.kind.Raises node) (perform node a) := by
  cases a with
  | streamIn slots => exact throws_transferIn rfl true slots
  | copyIn slots => exact throws_transferIn rfl false slots
  | task k args => exact (throws_launch k args).bind fun _ => .pure 0
  | streamOut slots => exact throws_transferOut slots
  | barrier => exact (throws_inNode rfl _).bind fun _ => .pure 0

end

/-! ### Nodes that were completed -/

/-- The profile of `g'` is that of `g` with samples of nodes of `g` that were completed in a run. -/
def Records (run : Nat) (ns : List Node) (g g' : Graph) : Prop :=
  ∃ xs : List Sample, g'.profile.samples.toList = g.profile.samples.toList ++ xs ∧
    xs.map (fun x => (x.node, x.kind, x.run)) =
      ns.map fun n => (g.name ++ "." ++ n.name, n.action.kind, run)

theorem Records.of_profile {run : Nat} {ns : List Node} {g g' g'' : Graph}
    (h : Records run ns g g') (hp : g''.profile = g'.profile) : Records run ns g g'' := by
  rw [Records, hp]
  exact h

/-- A node that fails has failed to do what it is there for. -/
theorem runNode_error {run : Nat} {n : Node} {s s' : Site} {e : GraphError}
    (h : runNode run n s = (.error e, s')) :
    perform (s.graph.qualified n.name) n.action s = (.error e, s') := by
  rcases hp : perform (s.graph.qualified n.name) n.action s with ⟨e' | bytes, t⟩
  · rw [runNode_apply, bind_of_error hp] at h
    cases h
    rfl
  · rw [runNode_apply, bind_of_ok hp] at h
    cases h

/-- Every node that is completed is recorded, in order. -/
theorem records_each {run : Nat} {ns : List Node} {s s' : Site}
    (h : Step.each ns (runNode run) s = (.ok (), s')) : Records run ns s.graph s'.graph := by
  have hsamples := samples_each run ns s
  have hlabels := congrArg
    (List.map fun n : Node => (s.graph.name ++ "." ++ n.name, n.action.kind, run))
    (completions_of_each (congrArg Prod.fst h))
  rw [h] at hsamples
  rw [List.map_map] at hlabels
  exact ⟨_, hsamples, List.map_map.trans hlabels⟩

end Graph

/-! ### Where a run stops -/

/-- A run of `g` that has come to `s` stops in front of the node at index `k` with an error. It was
working on the slots for which `T` holds, and on the buffers in those for which `N` holds. -/
inductive Site.StopsAt (g : Graph) (s : Site) :
    Nat → (SlotId → Prop) → (SlotId → Prop) → GraphError → Prop where
  /-- the node fails -/
  | node {k : Nat} {n : Node} {e : GraphError} (hn : g.nodes[k]? = some n)
    (hfails : (Graph.perform (g.name ++ "." ++ n.name) n.action s).1 = .error e)
    (he : n.action.kind.Raises (g.name ++ "." ++ n.name) e) :
    StopsAt g s k (· ∈ n.action.slots) n.action.Fetches e
  /-- there is no such node, and waiting for the device fails -/
  | wait {x : DeviceError} {e : GraphError}
    (hfails : (Workspace.onDevice Device.synchronize s.workspace).1 = .error x)
    (he : NodeKind.barrier.Raises (g.name ++ "." ++ "synchronize") e) :
    StopsAt g s g.nodes.length (fun _ => False) (fun _ => False) e

/-- A new run on `s` has completed the first `k` nodes, which led to `m`. -/
def Site.Completes (s : Site) (k : Nat) (m : Site) : Prop :=
  Graph.runNodes (s.graph.runs + 1) (s.graph.nodes.take k) s.begun = (.ok (), m)

namespace Site.Completes

open Offload.Graph

variable {κ : KernelId → Kernel} {s m : Site} {k : Nat}

theorem of_each
    (h : Step.each (s.graph.nodes.take k) (runNode (s.graph.runs + 1)) s.begun = (.ok (), m)) :
    s.Completes k m := by
  rw [Completes, runNodes_eq_each, h]

theorem each (h : s.Completes k m) :
    Step.each (s.graph.nodes.take k) (runNode (s.graph.runs + 1)) s.begun = (.ok (), m) := by
  rw [← h, runNodes_eq_each]

/-- The nodes that were completed are recorded. -/
theorem records (h : s.Completes k m) :
    Records (s.graph.runs + 1) (s.graph.nodes.take k) s.graph m.graph := by
  have hrecords := records_each h.each
  exact hrecords

/-- A run does not count before it is over. -/
theorem runs (h : s.Completes k m) : m.graph.runs = s.graph.runs := by
  have hnodes : Follows Site.OnlyRecords
      (Step.each (s.graph.nodes.take k) (runNode (s.graph.runs + 1))) :=
    .each (fun _ => rfl) @Site.OnlyRecords.trans fun n _ => Site.OnlyRecords.runNode _ n
  have hend := hnodes s.begun
  rw [h.each, Site.OnlyRecords] at hend
  rw [hend]
  rfl

/-- A graph stays sound up to the point where it stops. -/
theorem progress (hs : s.Sound κ) (h : s.Completes k m) :
    Site.Progress κ s.graph.Writes s m := by
  have hnodes : Follows (Site.Progress κ s.graph.Writes)
      (Step.each (s.graph.nodes.take k) (runNode (s.graph.runs + 1))) := by
    refine .each .refl (fun _ _ _ => .trans) fun n hn => ?_
    have hn := List.mem_of_mem_take hn
    exact follows_runNode _ (hs.known n hn) fun slot hslot => ⟨n, hn, hslot⟩
  have hbegun : Site.Progress κ s.graph.Writes s s.begun :=
    allows_progress.graph _ (minor_phase (by simp)) s
  have hend := hnodes s.begun
  rw [h.each] at hend
  exact hbegun.trans hend

end Site.Completes

namespace Graph

variable {κ : KernelId → Kernel} {s s' : Site} {e : GraphError} {n : Nat}

/-- Going through a graph fails at one of its nodes, or behind them. -/
theorem runAll_error_inv {run : Nat} (h : runAll run s = (.error e, s')) :
    (∃ k n m, s.graph.nodes[k]? = some n ∧
      Step.each (s.graph.nodes.take k) (runNode run) s = (.ok (), m) ∧
      perform (m.graph.qualified n.name) n.action m = (.error e, s')) ∨
    ∃ m, Step.each s.graph.nodes (runNode run) s = (.ok (), m) ∧
      inNode (s.graph.qualified "synchronize") .launch (Workspace.onDevice Device.synchronize) m =
        (.error e, s') := by
  rw [runAll_apply, bind_apply] at h
  rcases hrun : Step.each s.graph.nodes (runNode run) s with ⟨e' | u, m⟩ <;> rw [hrun] at h
  · cases h
    obtain ⟨k, n, m, hn, hbefore, hfails⟩ := each_error hrun
    exact .inl ⟨k, n, m, hn, hbefore, runNode_error hfails⟩
  · exact .inr ⟨m, rfl, h⟩

/-- A run that fails stops somewhere. From there on it has worked on what it was working on there at
most. -/
theorem execute_error_inv (hs : s.Sound κ) (hlive : s.graph.phase ≠ .disposed)
    (h : execute s = (.error e, s')) : ∃ k T N m, s.Completes k m ∧ m.StopsAt s.graph k T N e ∧
      Workspace.Confined T N m.workspace s'.workspace ∧
      s'.graph = { m.graph with table := s'.graph.table, phase := .idle } := by
  rw [execute_apply, if_neg hlive] at h
  rcases hall : runAll (s.graph.runs + 1) s.begun with ⟨e' | u, t⟩ <;>
    rw [Site.begun] at hall <;> rw [hall] at h <;> cases h
  rcases runAll_error_inv hall with ⟨k, n, m, hn, hbefore, hfails⟩ | ⟨m, hbefore, hfails⟩
  · have hcompletes : s.Completes k m := .of_each hbefore
    have hm := (hcompletes.progress hs).sound hs
    have hname : m.graph.qualified n.name = s.graph.name ++ "." ++ n.name := by
      rw [qualified, (hcompletes.progress hs).name]
    rw [hname] at hfails
    have hconfines := confines_perform (hs.known n (List.mem_of_getElem? hn))
      (s.graph.name ++ "." ++ n.name) m
    have hslots := Site.OnlySlots.perform (s.graph.name ++ "." ++ n.name) n.action m
    rw [hfails] at hconfines hslots
    refine ⟨k, _, _, m, hcompletes, .node hn (congrArg Prod.fst hfails)
      (throws_perform _ _ _ _ _ hfails), hconfines.confined hm.workspace hm.programs, ?_⟩
    exact congrArg (fun g : Graph => { g with phase := .idle }) hslots
  · have hcompletes : s.Completes s.graph.nodes.length m := by
      refine .of_each ?_
      rw [List.take_length]
      exact hbefore
    have hraises : NodeKind.barrier.Raises _ e := throws_inNode rfl _ _ _ _ hfails
    rw [inNode_apply] at hfails
    rcases hwait : Workspace.onDevice Device.synchronize m.workspace with ⟨x | u, w⟩ <;>
      rw [hwait] at hfails <;> cases hfails
    have hconfined : Workspace.Confined (fun _ => False) (fun _ => False) m.workspace
        (Workspace.onDevice Device.synchronize m.workspace).2 :=
      .withDevice (Device.synchronize_changes (fun _ => False) m.workspace.device)
        fun _ h => h.elim
    rw [hwait] at hconfined
    exact ⟨_, _, _, m, hcompletes, .wait (congrArg Prod.fst hwait) hraises, hconfined, rfl⟩

/-- A run that succeeds has completed all nodes. After that it has only waited for the device. -/
theorem execute_ok_inv (hlive : s.graph.phase ≠ .disposed) (h : execute s = (.ok n, s')) :
    n = s.graph.runs + 1 ∧ ∃ m, s.Completes s.graph.nodes.length m ∧
      s'.graph.profile = m.graph.profile ∧ s'.machine.hosts = m.machine.hosts := by
  rw [execute_apply, if_neg hlive] at h
  rcases hall : runAll (s.graph.runs + 1) s.begun with ⟨e | u, t⟩ <;>
    rw [Site.begun] at hall <;> rw [hall] at h <;> cases h
  rw [runAll_apply] at hall
  obtain ⟨u, m, hnodes, hwait⟩ := bind_eq_ok hall
  refine ⟨rfl, m, .of_each ?_, ?_⟩
  · rw [List.take_length]
    exact hnodes
  · rw [inNode_apply] at hwait
    rcases hsync : Workspace.onDevice Device.synchronize m.workspace with ⟨x | u, w⟩ <;>
      rw [hsync] at hwait <;> cases hwait
    refine ⟨rfl, ?_⟩
    exact (congrArg (fun x => x.2.hosts) hsync).symm

end Graph

/-! ### Fleets -/

/-- Where something was done to some slots of a user only, all other slots hold what they held. -/
theorem System.Sound.deviceBytes_setWorkspace {ι δ : Type} [DecidableEq ι] [DecidableEq δ]
    {f : System ι δ} {u v : ι} {T N : SlotId → Prop} {w : Workspace} {slot : SlotId}
    (hf : f.Sound) (h : Workspace.Confined T N (f.workspace u) w) (hv : v = u → ¬ T slot) :
    ((f.setWorkspace u w).workspace v).deviceBytes slot = (f.workspace v).deviceBytes slot := by
  by_cases hvu : v = u
  · subst hvu
    rw [workspace_setWorkspace_self]
    exact h.deviceBytes (hf.workspace v) (hv rfl)
  · rw [workspace_setWorkspace_ne hvu]
    by_cases hd : f.home v = f.home u
    · rcases hid : (f.table v).block? slot with _ | id
      · simp only [Workspace.deviceBytes, System.workspace, hid, Option.bind_none]
      · obtain ⟨b, hb, -⟩ := (hf.workspace v).lends hid
        rw [Workspace.deviceBytes_of_lends hid hb]
        refine Workspace.deviceBytes_of_lends hid ?_
        rw [pool_of_home hd] at hb
        simp only [Workspace.pool, if_pos hd]
        exact h.lends id b (fun slot' _ hid' => hvu (hf.apart v u slot slot' id hd hid hid')) hb
    · rw [if_neg hd]
      rfl

namespace Fleet

variable {ι δ : Type} [DecidableEq ι] [DecidableEq δ] {κ : KernelId → Kernel}
  {f f' : Fleet ι δ} {u : ι} {s m : Site} {o : Except GraphError Nat}

/-- The graph of a user was run from its first node on, which led from `f` to `f'`. The profile has
gained the nodes that were completed. -/
inductive StartsOver (f : Fleet ι δ) (u : ι) (f' : Fleet ι δ) : Except GraphError Nat → Prop where
  /-- all of them were completed -/
  | done {m : Site} (h : (f.site u).Completes (f.graph u).nodes.length m)
    (hr : (f.graph u).Records ((f.graph u).runs + 1) (f.graph u).nodes (f'.graph u)) :
    StartsOver f u f' (.ok ((f.graph u).runs + 1))
  /-- those before the point where the run has stopped -/
  | stopped {m : Site} {k : Nat} {T N : SlotId → Prop} {e : GraphError}
    (h : (f.site u).Completes k m)
    (hr : (f.graph u).Records ((f.graph u).runs + 1) ((f.graph u).nodes.take k) (f'.graph u))
    (hs : m.StopsAt (f.graph u) k T N e) : StartsOver f u f' (.error e)

/-- Every run starts over. -/
theorem startsOver_execute (hf : f.Sound κ) (hlive : (f.graph u).phase ≠ .disposed)
    (h : (Request.call u .execute).perform f = (o, f')) : StartsOver f u f' o := by
  rcases hrun : Graph.execute (f.site u) with ⟨e | n, s⟩ <;>
    rw [perform_call (c := .execute) hrun] at h <;> cases h
  · obtain ⟨k, T, N, m, hcompletes, hstops, -, hgraph⟩ :=
      Graph.execute_error_inv (hf.site u) hlive hrun
    refine .stopped hcompletes (hcompletes.records.of_profile ?_) hstops
    rw [graph_setSite_self, hgraph]
  · obtain ⟨rfl, m, hcompletes, hprofile, -⟩ := Graph.execute_ok_inv hlive hrun
    refine .done hcompletes ?_
    rw [graph_setSite_self]
    have hrecords := hcompletes.records.of_profile hprofile
    rw [List.take_of_length_le (Nat.le_refl _)] at hrecords
    exact hrecords

/-- A run that has failed is a beginning of a run. The nodes before the point where it has stopped
were completed and recorded in order. Buffers and device memory are as those nodes have left them,
on whatever device and whoever they belong to, but for what the run was working on when it stopped.
The graph is idle, the run does not count, and the next one starts over, whatever happens until
then. -/
theorem failed_run_is_a_prefix {e : GraphError} (hf : Attained κ f)
    (hlive : (f.graph u).phase ≠ .disposed)
    (h : (Request.call u .execute).perform f = (.error e, f')) :
    ∃ k T N m, m.StopsAt (f.graph u) k T N e ∧ (f.site u).Completes k m ∧
      (f.graph u).Records ((f.graph u).runs + 1) ((f.graph u).nodes.take k) (f'.graph u) ∧
      (∀ x, (∀ slot, N slot → (m.graph.table.get slot).host ≠ x) →
        f'.hosts.get x = m.machine.hosts.get x) ∧
      (∀ v slot, (v = u → ¬ T slot) →
        (f'.workspace v).deviceBytes slot = ((f.setSite u m).workspace v).deviceBytes slot) ∧
      (∀ id b, (∀ slot, T slot → m.graph.table.block? slot ≠ some id) →
        m.workspace.pool.Lends id b → (f'.workspace u).pool.Lends id b) ∧
      (f'.graph u).phase = .idle ∧ (f'.graph u).runs = (f.graph u).runs ∧
      (f'.graph u).nodes = (f.graph u).nodes ∧
      ∀ f₁ f₂ o, Becomes κ (fun _ _ => True) f' f₁ → (f₁.graph u).phase ≠ .disposed →
        (Request.call u .execute).perform f₁ = (o, f₂) → StartsOver f₁ u f₂ o := by
  have hsound := hf.sound
  have hsound' : f'.Sound κ := by
    have hperform := hsound.perform (r := .call u .execute) ⟨nofun, nofun⟩
    rwa [h] at hperform
  rcases hrun : Graph.execute (f.site u) with ⟨e' | n, s⟩ <;>
    rw [perform_call (c := .execute) hrun] at h <;> cases h
  obtain ⟨k, T, N, m, hcompletes, hstops, hconfined, hgraph⟩ :=
    Graph.execute_error_inv (hsound.site u) hlive hrun
  -- the fleet at the point where the run has stopped
  have hprogress := hcompletes.progress (hsound.site u)
  obtain ⟨hm, hadvances⟩ := Command.advances_of_progress (hsound.site u) hprogress
  have hmid := hsound.setSite hm hadvances
  have hconfined' : Workspace.Confined T N ((f.setSite u m).site u).workspace s.workspace := by
    rw [site_setSite_self]
    exact hconfined
  refine ⟨k, T, N, m, hstops, hcompletes, hcompletes.records.of_profile ?_, hconfined.hosts,
    fun v slot hv => ?_, fun id b hid hb => ?_, ?_, ?_, ?_, fun f₁ f₂ o hf₁ hlive₁ h₁ =>
      startsOver_execute (hf₁.sound hsound') hlive₁ h₁⟩
  · rw [graph_setSite_self, hgraph]
  · have hbytes := hmid.system.deviceBytes_setWorkspace hconfined' hv
    rw [← system_setSite, setSite_setSite] at hbytes
    exact hbytes
  · rw [workspace, site_setSite_self]
    exact hconfined.lends id b hid hb
  · rw [graph_setSite_self, hgraph]
  · rw [graph_setSite_self, hgraph]
    exact hcompletes.runs
  · rw [graph_setSite_self, hgraph]
    exact hprogress.nodes

/-- Of two copies to the device the second one fails. -/
theorem failed_run_is_a_prefix_copies :
    let f₀ := single "g" none
      [.filled (.scalar .uint8) 2 (1 : UInt8), .filled (.scalar .uint8) 3 (2 : UInt8)]
    let rs : List (Request Unit Unit) := [.call () (.streamIn [⟨0⟩]), .call () (.streamIn [⟨1⟩]),
      .configure () (fun c n => c == .upload && n == 2) none]
    let f := (performAll rs f₀).2
    let e := GraphError.transferFailure "g.stream_in.1" (.transfer "injected h2d fault 2")
    let f' := ((Request.call () .execute).perform f).2
    Attained Kernel.idle f ∧ (f.graph ()).phase ≠ .disposed ∧
      (Request.call () .execute).perform f = (.error e, f') ∧
      ∃ k T N m, Site.StopsAt (f.graph ()) m k T N e ∧ (f.site ()).Completes k m ∧
        (f.graph ()).Records 1 ((f.graph ()).nodes.take k) (f'.graph ()) := by
  intro f₀ rs f e f'
  have h₀ : Start f₀ := start_single
  have hr : ValidAll Kernel.idle rs f₀ := by
    have hmade : f₀.hosts.Has ⟨0⟩ ∧ f₀.hosts.Has ⟨1⟩ := by simp [HostMemory.Has, f₀, single]
    refine h₀.sound.validAll ?_
    simp only [rs, List.forall_mem_cons]
    refine ⟨⟨?_, ?_⟩, ⟨?_, ?_⟩, trivial, List.forall_mem_nil _⟩
    · simp [Command.buffers, hmade]
    · rintro _ _ _ ⟨⟩
    · simp [Command.buffers, hmade]
    · rintro _ _ _ ⟨⟩
  have hf : Attained Kernel.idle f := Reachable.attained ⟨f₀, rs, h₀, hr, rfl⟩
  have hlive : (f.graph ()).phase ≠ .disposed := by decide
  have he : ((Request.call () .execute).perform f).1 = .error e := by decide +kernel
  have hrun : (Request.call () .execute).perform f = (.error e, f') := Prod.ext he rfl
  obtain ⟨k, T, N, m, hstops, hcompletes, hrecords, -⟩ := failed_run_is_a_prefix hf hlive hrun
  exact ⟨hf, hlive, hrun, k, T, N, m, hstops, hcompletes, hrecords⟩

/-- A graph that was disposed of fails to run without coming to a node or to the end, and stays as
it is. -/
theorem disposed_run_is_no_prefix :
    let f : Fleet Unit Unit := (performAll [.call () .dispose] (single "g" none [])).2
    Reachable Kernel.idle f ∧ ∃ e f', (Request.call () .execute).perform f = (.error e, f') ∧
      (f'.graph ()).phase ≠ .idle ∧ ∀ k T N m, ¬ Site.StopsAt (f.graph ()) m k T N e := by
  intro f
  have hf : Reachable Kernel.idle f :=
    ⟨single "g" none [], [.call () .dispose], start_single, ⟨⟨nofun, nofun⟩, trivial⟩,
      rfl⟩
  refine ⟨hf, .disposed "g", ((Request.call () .execute).perform f).2, ?_, by decide, ?_⟩
  · exact Prod.ext (by decide) rfl
  · rintro k T N m (⟨hn, -, -⟩ | ⟨-, he⟩)
    · cases hn
    · cases he

end Fleet

end Offload
