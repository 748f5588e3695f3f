import Offload.Proofs.Walk

/-!
# Running a graph keeps it sound

From node to node, and from call to call, a run keeps the workspace of its graph sound. This
holds wherever the run ends, so it does not matter which calls fail.

* `Graph.follows_launch` — a task writes only slots that it passes for that purpose.
* `Graph.progress_execute`, `Graph.progress_warmup`, `Graph.progress_synchronize`.
-/

namespace Offload

/-- What holds between the calls of a graph. -/
structure Site.Sound (κ : KernelId → Kernel) (s : Site) : Prop where
  /-- the workspace is sound -/
  workspace : s.workspace.Sound
  /-- the programs are those of the kernels that they are filed under -/
  programs : s.machine.context.Faithful κ
  /-- the kernels of tasks have their identities to themselves -/
  known : ∀ n ∈ s.graph.nodes, n.action.Known κ
  /-- the slots are those of the nodes, and what is read was made available -/
  built : s.graph.Built

/-- What a run may do from `s` on. -/
structure Site.Progress (κ : KernelId → Kernel) (W : SlotId → Prop) (s s' : Site) : Prop where
  /-- the workspace may change as those of tables do -/
  workspace : s.workspace.Progress κ W s'.workspace
  /-- the graph keeps its name -/
  name : s'.graph.name = s.graph.name
  /-- and its nodes -/
  nodes : s'.graph.nodes = s.graph.nodes

namespace Site

/-- Of a graph, a workspace has only the slots. -/
theorem workspace_withGraph {s : Site} {f : Graph → Graph}
    (ht : (f s.graph).table = s.graph.table) : (s.withGraph f).workspace = s.workspace := by
  simp only [workspace, withGraph, ht]

theorem Sound.withGraph {κ : KernelId → Kernel} {s : Site} (hs : s.Sound κ) {f : Graph → Graph}
    (hn : (f s.graph).nodes = s.graph.nodes) (ht : (f s.graph).table = s.graph.table) :
    (s.withGraph f).Sound κ := by
  refine ⟨?_, hs.programs, fun n h => hs.known n (hn ▸ h), hs.built.of_nodes hn ?_⟩
  · rw [workspace_withGraph ht]
    exact hs.workspace
  · intro slot
    simp only [Site.withGraph, ht]

end Site

namespace Site.Progress

variable {κ : KernelId → Kernel} {W : SlotId → Prop} {s s' s'' : Site}

theorem refl (s : Site) : Progress κ W s s := ⟨.refl _, rfl, rfl⟩

theorem trans (h : Progress κ W s s') (h' : Progress κ W s' s'') : Progress κ W s s'' :=
  ⟨h.workspace.trans h'.workspace, h'.name.trans h.name, h'.nodes.trans h.nodes⟩

theorem sound (h : Progress κ W s s') (hs : s.Sound κ) : s'.Sound κ := by
  obtain ⟨hw, hc, -, hslots⟩ := h.workspace hs.workspace hs.programs
  exact ⟨hw, hc, fun n hn => hs.known n (h.nodes ▸ hn), hs.built.of_nodes h.nodes hslots⟩

theorem advances (h : Progress κ W s s') (hs : s.Sound κ) :
    Workspace.Advances W s.workspace s'.workspace :=
  (h.workspace hs.workspace hs.programs).2.2.1

end Site.Progress

namespace Graph

open Step

variable {κ : KernelId → Kernel} {W : SlotId → Prop}

/-! ### Building blocks -/

theorem follows_bind {ε α β : Type} {m : Step ε Site α} {f : α → Step ε Site β}
    (hm : Follows (Site.Progress κ W) m) (hf : ∀ a, Follows (Site.Progress κ W) (f a)) :
    Follows (Site.Progress κ W) (m >>= f) :=
  hm.bind (fun _ _ _ => .trans) hf

theorem follows_pure {ε α : Type} (a : α) :
    Follows (Site.Progress κ W) (pure a : Step ε Site α) := .pure .refl a

theorem follows_onWorkspace {α : Type} {m : Step DeviceError Workspace α}
    (hm : Follows (Workspace.Progress κ W) m) :
    Follows (Site.Progress κ W) (Site.onWorkspace m) := fun s => ⟨hm s.workspace, rfl, rfl⟩

theorem follows_inNode {α : Type} {m : Step DeviceError Workspace α} (node : String) (stage : Stage)
    (hm : Follows (Workspace.Progress κ W) m) : Follows (Site.Progress κ W) (inNode node stage m) :=
  (follows_onWorkspace hm).mapError _

/-! ### Nodes -/

theorem follows_ensureAllocated (node : String) (stage : Stage) (s : SlotId) :
    Follows (Site.Progress κ W) (do
      let _ ← inNode node stage (Workspace.ensureAllocated s)
      pure () : Step GraphError Site Unit) :=
  follows_bind (follows_inNode _ _ (Workspace.follows_ensureAllocated s)) fun _ => follows_pure _

/-- A sound site may go through its nodes. -/
theorem allows_progress : Site.Allows (Site.Progress κ W) fun _ => True where
  refl := .refl
  trans _ _ _ := .trans
  graph f hf s := by
    refine ⟨?_, hf.name _, hf.nodes _⟩
    rw [Site.workspace_withGraph (hf.table s.graph)]
    exact .refl _
  ensureAllocated slot _ := follows_onWorkspace (Workspace.follows_ensureAllocated slot)
  upload slot _ := follows_onWorkspace (Workspace.follows_upload slot)
  download slot _ := follows_onWorkspace (Workspace.follows_download slot)
  wait := follows_onWorkspace Workspace.follows_synchronize

/-- A kernel changes only slots that were passed to be written. -/
theorem follows_deviceLaunch (node : String) {k : Kernel} {args : List TaskArg}
    {given : List LaunchArg} {s : Site} (hW : ∀ s, (Action.task k args).Writes s → W s)
    (hgiven : args.mapM (launchArg s.graph.table) = .ok given) :
    Site.Progress κ W s (inNode node .launch (Workspace.onDevice (Device.launch k given)) s).2 :=
  ⟨Workspace.progress_launch hW hgiven, rfl, rfl⟩

/-- Where programs are filed as they should be, a kernel gets a program of its own. -/
theorem kernel_of_compile {k : Kernel} {p : Program} {node : String} {s s₁ : Site}
    (hc : s.machine.context.Faithful κ) (hk : κ k.id = k)
    (h : inNode node .launch (Workspace.onContext (Context.compile k)) s = (.ok p, s₁)) :
    p.kernel = k := by
  rcases hr : Context.compile k s.machine.context with ⟨r, c⟩
  have hfst : r.mapError (nodeError node .launch) = .ok p := by
    rw [inNode_apply, Workspace.onContext, on_apply] at h
    exact (congrArg (fun x => Except.mapError _ (Prod.fst x)) hr).symm.trans (congrArg Prod.fst h)
  obtain ⟨-, -, ⟨p', rfl, hkernel, -⟩ | ⟨e, rfl, -⟩⟩ := Context.compile_inv hc hk hr
  · cases hfst
    exact hkernel
  · cases hfst

theorem follows_launch (node : String) {k : Kernel} {args : List TaskArg} (hk : κ k.id = k)
    (hW : ∀ s, (Action.task k args).Writes s → W s) :
    Follows (Site.Progress κ W) (launch node k args) := by
  refine allows_progress.bind (allows_progress.makeRoom (fun _ _ => trivial) node .launch) ?_
  intro _ s
  have hcompile := follows_inNode (W := W) node .launch (Workspace.follows_compile hk) s
  rcases h : inNode node .launch (Workspace.onContext (Context.compile k)) s with ⟨e | p, s₁⟩ <;>
    rw [h] at hcompile
  · rw [bind_of_error h]
    exact hcompile
  · rw [bind_of_ok h]
    rcases hgiven : args.mapM (launchArg s₁.graph.table) with e | given
    · -- an argument without memory
      rw [bind_apply, get_apply]
      dsimp only
      rw [hgiven]
      exact hcompile
    · have hsnd : ((do
          let given ← (Step.lift (args.mapM (launchArg s₁.graph.table))).mapError
            (nodeError node .launch)
          let _ ← inNode node .launch (Workspace.onDevice (Device.launch p.kernel given))
          pure () : Step GraphError Site Unit) s₁).2 =
          (inNode node .launch (Workspace.onDevice (Device.launch p.kernel given)) s₁).2 := by
        rw [hgiven]
        exact snd_bind_pure _ _ _
      refine hsnd ▸ ?_
      by_cases hp : p.kernel = k
      · rw [hp]
        exact hcompile.trans (follows_deviceLaunch node hW hgiven)
      · -- a faithful context would not have handed out this program
        refine ⟨?_, hcompile.name, hcompile.nodes⟩
        intro hw hc
        exact absurd (kernel_of_compile hc hk h) hp

/-! ### Runs -/

theorem follows_runNode (run : Nat) {n : Node} (hn : n.action.Known κ)
    (hW : ∀ s, n.action.Writes s → W s) : Follows (Site.Progress κ W) (runNode run n) := by
  refine allows_progress.runNode (fun _ _ => trivial) run ?_
  intro node k args ha
  rw [ha] at hn hW
  exact follows_launch node hn hW

theorem follows_warmNode {n : Node} (hn : n.action.Known κ) :
    Follows (Site.Progress κ W) (warmNode n) := by
  refine allows_progress.warmNode (fun _ _ => trivial) ?_
  intro k args ha
  rw [ha] at hn
  exact follows_onWorkspace (Workspace.follows_compile hn)

variable {s : Site}

/-- A run, however it ends. -/
theorem progress_execute (hs : s.Sound κ) : Site.Progress κ s.graph.Writes s (execute s).2 := by
  refine allows_progress.execute (fun _ _ _ _ => trivial) ?_
  intro n hn node k args ha
  have hknown := hs.known n hn
  rw [ha] at hknown
  exact follows_launch node hknown fun slot h => ⟨n, hn, ha ▸ h⟩

theorem progress_warmup (hs : s.Sound κ) : Site.Progress κ W s (warmup s).2 := by
  refine allows_progress.warmup (fun _ _ _ _ => trivial) ?_
  intro n hn k args ha
  have hknown := hs.known n hn
  rw [ha] at hknown
  exact follows_onWorkspace (Workspace.follows_compile hknown)

theorem progress_synchronize (buffers : List HostId) (s : Site) :
    Site.Progress κ W s (synchronize buffers s).2 :=
  allows_progress.synchronize fun _ _ _ _ => trivial

end Graph

end Offload
