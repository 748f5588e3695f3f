import Offload.Proofs.Running

/-!
# The calls of a graph

Everything that can be asked of a graph, as data. A call that adds nodes either refuses and
leaves the graph alone, or adds one node at the end.

* `Graph.addBinding_apply`, `Graph.streamOut_apply`, `Graph.task_apply`, `Graph.rebind_apply` —
  what calls come to.
* `Command` — a call; `Command.run` carries it out.
* `Site.Adds` — the node that a call adds; `Command.run_of_adds` says that there is no more to it.
* `Command.advances_run` — whatever is asked of a graph, it stays sound.
-/

namespace Offload

namespace Graph

open Step

/-! ### What calls come to -/

/-- The graph with one more node about buffers, which have slots from then on. -/
def bound (kind : NodeKind) (action : List SlotId → Action) (buffers : List HostId) (g : Graph) :
    Graph :=
  { g with table := (g.table.bindAll buffers).2 }.push (g.nextName kind)
    (action (g.table.bindAll buffers).1)

/-- One more node about buffers, which needs nothing. -/
theorem Built.bound {g : Graph} {name : String} (h : g.Built) (action : List SlotId → Action)
    (ht : g.table.Inverse) (hslots : ∀ slots, (action slots).slots = slots)
    (hneeds : ∀ slots slot, ¬ (action slots).Needs slot) (buffers : List HostId) :
    ({ g with table := (g.table.bindAll buffers).2 }.push name
      (action (g.table.bindAll buffers).1)).Built := by
  refine h.push (fun _ => (SlotTable.grows_bindAll _ _).has) (fun slot hs => ?_)
    (fun slot hs => ?_) fun slot hs => absurd hs (hneeds _ _) <;> rw [hslots] at *
  · exact SlotTable.has_bindAll hs
  · exact SlotTable.has_of_mem_bindAll ht hs

theorem addBinding_apply (kind : NodeKind) (action : List SlotId → Action) (buffers : List HostId)
    (s : Site) :
    addBinding kind action buffers s =
      if s.graph.phase = .disposed then (.error (.disposed s.graph.name), s)
      else (.ok (), s.withGraph (bound kind action buffers)) := by
  rw [addBinding, ensureLive_bind]
  rfl

theorem streamOut_apply (buffers : List HostId) (s : Site) :
    streamOut buffers s =
      if s.graph.phase = .disposed then (.error (.disposed s.graph.name), s)
      else match s.graph.boundSlots (s.graph.qualified (s.graph.nextName .streamOut)) buffers with
        | .error e => (.error e, s)
        | .ok slots => (.ok (),
            s.withGraph (·.push (s.graph.nextName .streamOut) (.streamOut slots))) := by
  rw [streamOut, ensureLive_bind, bind_apply, get_apply]
  dsimp only
  rw [bind_apply, lift_apply]
  rcases s.graph.boundSlots (s.graph.qualified (s.graph.nextName .streamOut)) buffers with e | slots
  · rfl
  · rfl

theorem barrier_apply (s : Site) :
    barrier s =
      if s.graph.phase = .disposed then (.error (.disposed s.graph.name), s)
      else (.ok (), s.withGraph fun g => g.push (g.nextName .barrier) .barrier) := by
  rw [barrier, ensureLive_bind]
  rfl

/-- The graph with one more task. -/
def tasked (name : String) (k : Kernel) (args : List Arg) (g : Graph) : Graph :=
  { g with table := (bindArgs g.table args).2 }.push name (.task k (bindArgs g.table args).1)

theorem task_apply (name : String) (k : Kernel) (args : List Arg) (s : Site) :
    task name k args s =
      if s.graph.phase = .disposed then (.error (.disposed s.graph.name), s)
      else match checkArgs s (s.graph.qualified name) k args with
        | .error e => (.error e, s)
        | .ok () => (.ok (), s.withGraph (tasked name k args)) := by
  rw [task, ensureLive_bind, bind_apply, get_apply]
  dsimp only
  rw [bind_apply, lift_apply]
  rcases checkArgs s (s.graph.qualified name) k args with e | u
  · rfl
  · rfl

/-- The error of a graph for a refused exchange. -/
def rebindError (g : Graph) : DeviceError → GraphError
  | .unboundBuffer h => .unboundBuffer (g.qualified "update_reference") h
  | e => .incompatibleReference g.name e

theorem rebind_apply (old new : HostId) (s : Site) :
    rebind old new s =
      if s.graph.phase = .disposed then (.error (.disposed s.graph.name), s)
      else match Workspace.rebind old new s.workspace with
        | (.error e, w) => (.error (s.graph.rebindError e), s.setWorkspace w)
        | (.ok _, w) => (.ok (), s.setWorkspace w) := by
  rw [rebind, ensureLive_bind, bind_apply, get_apply]
  dsimp only
  rw [bind_apply, mapError_apply, Site.onWorkspace, on_apply]
  rcases Workspace.rebind old new s.workspace with ⟨e | u, w⟩
  · cases e <;> rfl
  · rfl

theorem clearProfile_apply (s : Site) :
    clearProfile s =
      if s.graph.phase = .disposed then (.error (.disposed s.graph.name), s)
      else (.ok (), s.withGraph ({ · with profile := .empty })) := by
  rw [clearProfile, ensureLive_bind]
  rfl

end Graph

/-! ### Calls as data -/

/-- What can be asked of a graph. -/
inductive Command where
  /-- copy buffers to the device on every run -/
  | streamIn (buffers : List HostId)
  /-- copy buffers to the device when they are stale -/
  | copyIn (buffers : List HostId)
  /-- launch a kernel -/
  | task (name : String) (k : Kernel) (args : List Arg)
  /-- copy buffers to the host on every run -/
  | streamOut (buffers : List HostId)
  /-- wait for the device -/
  | barrier
  /-- exchange a buffer -/
  | rebind (old new : HostId)
  /-- allocate and compile in advance -/
  | warmup
  /-- run -/
  | execute
  /-- copy buffers to the host now -/
  | synchronize (buffers : List HostId)
  /-- forget what was completed -/
  | clearProfile
  /-- give up all memory -/
  | dispose

namespace Command

/-- Carry out a call. The result is the number of a run, and zero otherwise. -/
def run : Command → Step GraphError Site Nat
  | streamIn buffers => do Graph.streamIn buffers; return 0
  | copyIn buffers => do Graph.copyIn buffers; return 0
  | task name k args => do Graph.task name k args; return 0
  | streamOut buffers => do Graph.streamOut buffers; return 0
  | barrier => do Graph.barrier; return 0
  | rebind old new => do Graph.rebind old new; return 0
  | warmup => do Graph.warmup; return 0
  | execute => Graph.execute
  | synchronize buffers => do Graph.synchronize buffers; return 0
  | clearProfile => do Graph.clearProfile; return 0
  | dispose => fun s => (.ok 0, Graph.dispose s)

/-- The call adds a node. -/
def adds : Command → Bool
  | streamIn _ | copyIn _ | task _ _ _ | streamOut _ | barrier => true
  | rebind _ _ | warmup | execute | synchronize _ | clearProfile | dispose => false

/-- The buffers that are passed. -/
def buffers : Command → List HostId
  | streamIn bs | copyIn bs | streamOut bs | synchronize bs => bs
  | task _ _ args => Graph.argBuffers args
  | rebind old new => [old, new]
  | barrier | warmup | execute | clearProfile | dispose => []

/-- The buffers that are passed were made, and the kernel has its identity to itself. -/
structure Valid (κ : KernelId → Kernel) (m : HostMemory) (c : Command) : Prop where
  /-- the buffers were made -/
  made : ∀ h ∈ c.buffers, m.Has h
  /-- the kernel has its identity to itself -/
  known : ∀ name k args, c = task name k args → κ k.id = k

/-! ### After the end -/

section Disposed

variable {s : Site}

/-- A graph that was disposed of refuses everything else. -/
theorem refused_of_disposed (h : s.graph.phase = .disposed) {c : Command} (hc : c ≠ .dispose) :
    c.run s = (.error (.disposed s.graph.name), s) := by
  cases c with
  | streamIn bs =>
    rw [run, Step.bind_pure_apply, Graph.streamIn, Graph.addBinding_apply, if_pos h]
    rfl
  | copyIn bs =>
    rw [run, Step.bind_pure_apply, Graph.copyIn, Graph.addBinding_apply, if_pos h]
    rfl
  | task name k args =>
    rw [run, Step.bind_pure_apply, Graph.task_apply, if_pos h]
    rfl
  | streamOut bs =>
    rw [run, Step.bind_pure_apply, Graph.streamOut_apply, if_pos h]
    rfl
  | barrier =>
    rw [run, Step.bind_pure_apply, Graph.barrier_apply, if_pos h]
    rfl
  | rebind old new =>
    rw [run, Step.bind_pure_apply, Graph.rebind_apply, if_pos h]
    rfl
  | warmup =>
    rw [run, Step.bind_pure_apply, Graph.warmup, Graph.ensureLive_bind, if_pos h]
    rfl
  | execute => rw [run, Graph.execute_apply, if_pos h]
  | synchronize bs =>
    rw [run, Step.bind_pure_apply, Graph.synchronize, Graph.ensureLive_bind, if_pos h]
    rfl
  | clearProfile =>
    rw [run, Step.bind_pure_apply, Graph.clearProfile_apply, if_pos h]
    rfl
  | dispose => exact absurd rfl hc

/-- It does not matter how often a graph is disposed of. -/
theorem dispose_of_disposed (h : s.graph.phase = .disposed) : dispose.run s = (.ok 0, s) := by
  simp only [run, Graph.dispose, if_pos h]

/-- Nothing can be done with a graph that was disposed of. -/
theorem run_of_disposed (h : s.graph.phase = .disposed) (c : Command) : (c.run s).2 = s := by
  by_cases hc : c = .dispose
  · rw [hc, dispose_of_disposed h]
  · rw [refused_of_disposed h hc]

end Disposed

end Command

/-! ### What is added -/

/-- What the node is to do that a call on `s` adds, and the slots that there are from then on. -/
inductive Site.Adds (s : Site) : Command → Action → SlotTable → Prop where
  /-- copies to the device on every run -/
  | streamIn (buffers : List HostId) : Adds s (.streamIn buffers)
      (.streamIn (s.graph.table.bindAll buffers).1) (s.graph.table.bindAll buffers).2
  /-- copies to the device of what is stale -/
  | copyIn (buffers : List HostId) : Adds s (.copyIn buffers)
      (.copyIn (s.graph.table.bindAll buffers).1) (s.graph.table.bindAll buffers).2
  /-- a launch, all of whose arguments were accepted -/
  | task (name node : String) (k : Kernel) (args : List Arg)
      (hcheck : Graph.checkArgs s node k args = .ok ()) : Adds s (.task name k args)
      (.task k (Graph.bindArgs s.graph.table args).1) (Graph.bindArgs s.graph.table args).2
  /-- copies to the host -/
  | streamOut (node : String) (buffers : List HostId) (slots : List SlotId)
      (hslots : s.graph.boundSlots node buffers = .ok slots) :
      Adds s (.streamOut buffers) (.streamOut slots) s.graph.table
  /-- waiting for the device -/
  | barrier : Adds s .barrier .barrier s.graph.table

namespace Site.Adds

variable {s : Site} {c : Command} {a : Action} {t : SlotTable}

/-- Slots are made for buffers that are passed, as far as they have none. -/
theorem exists_bindAll (h : s.Adds c a t) :
    ∃ buffers, (∀ b ∈ buffers, b ∈ c.buffers) ∧ t = (s.graph.table.bindAll buffers).2 := by
  cases h with
  | streamIn buffers => exact ⟨buffers, fun _ => id, rfl⟩
  | copyIn buffers => exact ⟨buffers, fun _ => id, rfl⟩
  | task name node k args hcheck => exact ⟨_, fun _ => id, Graph.snd_bindArgs _ _⟩
  | streamOut node buffers slots hslots => exact ⟨[], nofun, rfl⟩
  | barrier => exact ⟨[], nofun, rfl⟩

/-- The graph with the node is well built. -/
theorem built (h : s.Adds c a t) (ht : s.graph.table.Inverse) (hb : s.graph.Built)
    (name : String) : ({ s.graph with table := t }.push name a).Built := by
  cases h with
  | streamIn buffers => exact hb.bound .streamIn ht (fun _ => rfl) (fun _ _ => id) buffers
  | copyIn buffers => exact hb.bound .copyIn ht (fun _ => rfl) (fun _ _ => id) buffers
  | task name node k args hcheck => exact hb.tasked ht hcheck
  | streamOut node buffers slots hslots =>
    have hold : ∀ slot ∈ slots, s.graph.table.Has slot := by
      intro slot hslot
      obtain ⟨b, -, hb⟩ := Graph.mem_boundSlots hslots hslot
      exact ht.has_of_slotOf? hb
    exact hb.push (fun _ => id) (fun _ => .inl) hold hold
  | barrier => exact hb.push (fun _ => id) (fun _ => .inl) nofun nofun

end Site.Adds

/-- The kernel of a launch has its identity to itself. -/
theorem Site.Adds.known {κ : KernelId → Kernel} {s : Site} {c : Command} {a : Action}
    {t : SlotTable} (h : s.Adds c a t) (hc : c.Valid κ s.machine.hosts) : a.Known κ := by
  cases h with
  | task name node k args hcheck => exact hc.known name k args rfl
  | _ => trivial

/-- A call that adds nodes refuses, or it adds one node and does nothing else. -/
theorem Command.run_of_adds {c : Command} (hadds : c.adds = true) (s : Site) :
    (∃ e, c.run s = (.error e, s)) ∨ ∃ name a t, s.Adds c a t ∧
      c.run s = (.ok 0, ⟨s.machine, { s.graph with table := t }.push name a⟩) := by
  cases c with
  | streamIn bs =>
    rw [run, Step.bind_pure_apply, Graph.streamIn, Graph.addBinding_apply]
    split
    · exact .inl ⟨_, rfl⟩
    · exact .inr ⟨_, _, _, .streamIn bs, rfl⟩
  | copyIn bs =>
    rw [run, Step.bind_pure_apply, Graph.copyIn, Graph.addBinding_apply]
    split
    · exact .inl ⟨_, rfl⟩
    · exact .inr ⟨_, _, _, .copyIn bs, rfl⟩
  | task name k args =>
    rw [run, Step.bind_pure_apply, Graph.task_apply]
    split
    · exact .inl ⟨_, rfl⟩
    · split
      · exact .inl ⟨_, rfl⟩
      · rename_i hcheck
        exact .inr ⟨_, _, _, .task name _ k args hcheck, rfl⟩
  | streamOut bs =>
    rw [run, Step.bind_pure_apply, Graph.streamOut_apply]
    split
    · exact .inl ⟨_, rfl⟩
    · split
      · exact .inl ⟨_, rfl⟩
      · rename_i slots hslots
        exact .inr ⟨_, _, _, .streamOut _ bs slots hslots, rfl⟩
  | barrier =>
    rw [run, Step.bind_pure_apply, Graph.barrier_apply]
    split
    · exact .inl ⟨_, rfl⟩
    · exact .inr ⟨_, _, _, .barrier, rfl⟩
  | _ => cases hadds

/-- An exchange refuses, or another buffer is in the slot from then on. -/
theorem Command.run_rebind (old new : HostId) (s : Site) :
    (∃ e, (rebind old new).run s = (.error e, s)) ∨
      ∃ slot, s.graph.table.slotOf? old = some slot ∧
        (new ≠ old → s.graph.table.slotOf? new = none) ∧
        (rebind old new).run s = (.ok 0, s.setWorkspace (s.workspace.rebound old new slot)) := by
  rw [run, Step.bind_pure_apply, Graph.rebind_apply]
  split
  · exact .inl ⟨_, rfl⟩
  · rw [Workspace.rebind_apply]
    have htable : s.workspace.table = s.graph.table := rfl
    rcases hold : s.graph.table.slotOf? old with _ | slot
    · rw [htable, hold]
      exact .inl ⟨_, rfl⟩
    · rw [htable, hold]
      dsimp only
      by_cases hbound : new ≠ old ∧ (s.graph.table.slotOf? new).isSome
      · rw [if_pos hbound]
        exact .inl ⟨_, rfl⟩
      · rw [if_neg hbound]
        by_cases htype : (s.workspace.hosts.get new).type ≠ (s.workspace.host slot).type
        · rw [if_pos htype]
          exact .inl ⟨_, rfl⟩
        · rw [if_neg htype]
          refine .inr ⟨slot, rfl, fun hne => ?_, rfl⟩
          exact Option.not_isSome_iff_eq_none.mp fun hsome => hbound ⟨hne, hsome⟩

/-! ### Soundness -/

/-- What a call may do from `s` on. Kernels write only slots for which `W` holds. -/
structure Site.Advances (W : SlotId → Prop) (s s' : Site) : Prop where
  /-- the workspace advances -/
  workspace : Workspace.Advances W s.workspace s'.workspace
  /-- the graph keeps its name -/
  name : s'.graph.name = s.graph.name
  /-- nodes are added at the end only -/
  nodes : s.graph.nodes <+: s'.graph.nodes

namespace Command

variable {κ : KernelId → Kernel} {W : SlotId → Prop} {s s' : Site}

theorem advances_refl (hs : s.Sound κ) : s.Sound κ ∧ Site.Advances W s s :=
  ⟨hs, .refl _ _, rfl, List.prefix_refl _⟩

/-- What a run does is allowed. -/
theorem advances_of_progress (hs : s.Sound κ) (h : Site.Progress κ W s s') :
    s'.Sound κ ∧ Site.Advances W s s' :=
  ⟨h.sound hs, h.advances hs, h.name, h.nodes ▸ List.prefix_refl _⟩

/-- Slots may be made together with a node. -/
theorem advances_push {t : SlotTable} {name : String} {a : Action} (hs : s.Sound κ)
    (h : Workspace.Sound ⟨s.machine, t⟩ ∧
      Workspace.Advances (fun _ => False) s.workspace ⟨s.machine, t⟩) (ha : a.Known κ)
    (hb : ({ s.graph with table := t }.push name a).Built) :
    Site.Sound κ ⟨s.machine, { s.graph with table := t }.push name a⟩ ∧
      Site.Advances W s ⟨s.machine, { s.graph with table := t }.push name a⟩ := by
  refine ⟨⟨h.1, hs.programs, ?_, hb⟩, h.2.mono nofun, rfl, List.prefix_append _ _⟩
  intro n hn
  rcases List.mem_append.mp hn with hn | hn
  · exact hs.known n hn
  · obtain rfl := List.mem_singleton.mp hn
    exact ha

/-- A step on slots that leaves the programs alone. -/
theorem advances_setWorkspace {w : Workspace} (hs : s.Sound κ)
    (hp : w.machine.context.programs = s.machine.context.programs)
    (h : w.Sound ∧ Workspace.Advances (fun _ => False) s.workspace w)
    (hhas : ∀ slot, w.table.Has slot ↔ s.graph.table.Has slot) :
    (s.setWorkspace w).Sound κ ∧ Site.Advances W s (s.setWorkspace w) :=
  ⟨⟨h.1, hs.programs.of_programs hp, hs.known, hs.built.of_nodes rfl hhas⟩, h.2.mono nofun, rfl,
    List.prefix_refl _⟩

theorem samePrograms_drop (w : Workspace) (a : Option Allocation) :
    w.machine.context.SamePrograms (w.drop a).machine.context := by
  cases a <;> exact ⟨rfl, rfl, rfl⟩

theorem samePrograms_foldl_release (ns : List Nat) (w : Workspace) :
    w.machine.context.SamePrograms
      (ns.foldl (fun w i => w.release ⟨i⟩) w).machine.context := by
  induction ns generalizing w with
  | nil => exact .refl _
  | cons n ns ih =>
    have hrelease : w.machine.context.SamePrograms (w.release ⟨n⟩).machine.context :=
      samePrograms_drop w _
    exact hrelease.trans (ih _)

theorem samePrograms_rebound (w : Workspace) (old new : HostId) (s : SlotId) :
    w.machine.context.SamePrograms (w.rebound old new s).machine.context := by
  rw [Workspace.rebound]
  split
  · exact .refl _
  · exact samePrograms_drop w _

theorem samePrograms_rebind (old new : HostId) (w : Workspace) :
    w.machine.context.SamePrograms (Workspace.rebind old new w).2.machine.context := by
  rw [Workspace.rebind_apply]
  split
  · exact .refl _
  · split
    · exact .refl _
    · split
      · exact .refl _
      · exact samePrograms_rebound w old new _

/-- Whatever is asked of a graph, it stays sound. -/
theorem advances_run {c : Command} (hs : s.Sound κ) (hc : c.Valid κ s.machine.hosts) :
    (c.run s).2.Sound κ ∧ Site.Advances s.graph.Writes s (c.run s).2 := by
  rcases hadds : c.adds
  case true =>
    rcases run_of_adds hadds s with ⟨e, hrun⟩ | ⟨name, a, t, hadd, hrun⟩ <;> rw [hrun]
    · exact advances_refl hs
    · refine advances_push hs ?_ (hadd.known hc) (hadd.built hs.workspace.table hs.built name)
      obtain ⟨buffers, hb, rfl⟩ := hadd.exists_bindAll
      exact hs.workspace.bindAll fun b h => hc.made b (hb b h)
  cases c with
  | rebind old new =>
    rw [run, Step.snd_bind_pure, Graph.rebind_apply]
    split
    · exact advances_refl hs
    · have hnew : s.machine.hosts.Has new := hc.made new (by simp [buffers])
      have hrebind : (Workspace.rebind old new s.workspace).2.Sound ∧ _ := hs.workspace.rebind hnew
      have hprograms := (samePrograms_rebind old new s.workspace).programs
      have hhas := Workspace.has_rebind old new s.workspace
      split <;> rename_i h <;> rw [h] at hrebind hprograms hhas
      · exact advances_setWorkspace hs hprograms hrebind hhas
      · exact advances_setWorkspace hs hprograms hrebind hhas
  | warmup =>
    rw [run, Step.snd_bind_pure]
    exact advances_of_progress hs (Graph.progress_warmup hs)
  | execute => exact advances_of_progress hs (Graph.progress_execute hs)
  | synchronize bs =>
    rw [run, Step.snd_bind_pure]
    exact advances_of_progress hs (Graph.progress_synchronize bs s)
  | clearProfile =>
    rw [run, Step.snd_bind_pure, Graph.clearProfile_apply]
    split
    · exact advances_refl hs
    · exact ⟨hs.withGraph (f := ({ · with profile := .empty })) rfl rfl, .refl _ _, rfl,
        List.prefix_refl _⟩
  | dispose =>
    simp only [run, Graph.dispose]
    split
    · exact advances_refl hs
    · obtain ⟨h, ha⟩ := advances_setWorkspace (W := s.graph.Writes) hs
        (samePrograms_foldl_release _ _).programs hs.workspace.releaseAll
        (Workspace.has_foldl_release _ _)
      exact ⟨⟨h.workspace, h.programs, h.known, h.built.of_nodes rfl fun _ => Iff.rfl⟩,
        ha.workspace, ha.name, ha.nodes⟩
  | _ => cases hadds

end Command

end Offload
