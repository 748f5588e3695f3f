import Offload.Proofs.Functional
import Offload.Proofs.Running

/-!
# The same nodes on two sites

A graph is run on two sites that have nothing in common but host memory. What a node reads, an
earlier node of the same run has made the same on both, so that nothing which was in device memory
before makes a difference. Unless one of the two devices fails or runs out of memory, both runs
come to the same end.

* `Site.Twins` — two sites in the course of two runs of the same nodes.
* `Site.Denied` — a run was broken off by its device.
* `Graph.concur_perform`, `Graph.concur_each` — a node, and all of them.
* `Graph.concur_execute` — a run.
-/

namespace Offload

open Step

namespace Site

/-- Two sites in the course of what began with `s₀` and `t₀`, which have the same nodes. -/
structure Twins (κ : KernelId → Kernel) (s₀ t₀ : Site) (D : SlotId → Prop) (s t : Site) : Prop where
  /-- the workspaces are twins -/
  workspace : Workspace.Twins κ s₀.workspace t₀.workspace D s.workspace t.workspace
  /-- the nodes are the same -/
  nodes : t₀.graph.nodes = s₀.graph.nodes
  /-- the names are the same -/
  title : t₀.graph.name = s₀.graph.name
  /-- the one graph has kept its name -/
  left : s.graph.name = s₀.graph.name
  /-- so has the other -/
  right : t.graph.name = t₀.graph.name

/-- A run was broken off: a call of the device has failed since `s₀`, or a node is said to be out
of memory, and there is no room for one of its slots. -/
def Denied (s₀ : Site) (e : GraphError) (s : Site) : Prop :=
  Workspace.Struck s₀.workspace s.workspace ∨ ∃ n ∈ s₀.graph.nodes, ∃ slot ∈ n.action.slots,
    (∃ source, e = .deviceOutOfMemory (s₀.graph.qualified n.name) source) ∧ s.workspace.Full slot

/-- The errors are the same, and so are the contents of host memory. -/
def SameEnd (e e' : GraphError) (s t : Site) : Prop :=
  e' = e ∧ t.machine.hosts.contents = s.machine.hosts.contents

variable {κ : KernelId → Kernel} {s₀ t₀ s t : Site} {D D' : SlotId → Prop} {n : Node}
  {slot : SlotId}

namespace Twins

theorem setWorkspace {w w' : Workspace} (h : Twins κ s₀ t₀ D s t)
    (hw : Workspace.Twins κ s₀.workspace t₀.workspace D' w w') :
    Twins κ s₀ t₀ D' (s.setWorkspace w) (t.setWorkspace w') :=
  ⟨hw, h.nodes, h.title, h.left, h.right⟩

theorem mono (h : Twins κ s₀ t₀ D s t) (hD : ∀ slot, D' slot → D slot) : Twins κ s₀ t₀ D' s t :=
  { h with workspace := h.workspace.mono hD }

/-- A change of the graphs alone. -/
theorem withGraph (h : Twins κ s₀ t₀ D s t) (f f' : Graph → Graph)
    (hl : (f s.graph).name = s.graph.name ∧ (f s.graph).table = s.graph.table)
    (hr : (f' t.graph).name = t.graph.name ∧ (f' t.graph).table = t.graph.table) :
    Twins κ s₀ t₀ D (s.withGraph f) (t.withGraph f') := by
  refine ⟨?_, h.nodes, h.title, hl.1.trans h.left, hr.1.trans h.right⟩
  rw [Site.workspace_withGraph hl.2, Site.workspace_withGraph hr.2]
  exact h.workspace

/-- A node has the same name on either side. -/
theorem qualified (h : Twins κ s₀ t₀ D s t) (name : String) :
    t.graph.qualified name = s.graph.qualified name := by
  rw [Graph.qualified, Graph.qualified, h.left, h.right, h.title]

/-- The slots of a node were made. -/
theorem has (h : Twins κ s₀ t₀ D s t) (hs₀ : s₀.Sound κ) (hn : n ∈ s₀.graph.nodes)
    (hslot : slot ∈ n.action.slots) : s.workspace.table.Has slot :=
  (h.workspace.left.has slot).mpr ((hs₀.built.slots slot).mpr ⟨n, hn, hslot⟩)

end Twins

/-- A step for a slot of a node that is broken off breaks off the run. -/
theorem denied_of_slot {w : Workspace} {e : DeviceError} (stage : Graph.Stage)
    (hn : n ∈ s₀.graph.nodes) (hslot : slot ∈ n.action.slots)
    (h : Workspace.Denied s₀.workspace slot e w) :
    Denied s₀ (Graph.nodeError (s₀.graph.qualified n.name) stage e) (s.setWorkspace w) := by
  rcases h with hstruck | ⟨⟨m, m', rfl⟩, hfull⟩
  · exact .inl hstruck
  · exact .inr ⟨n, hn, slot, hslot, ⟨_, rfl⟩, hfull⟩

end Site

namespace Graph

variable {κ : KernelId → Kernel} {s₀ t₀ s t : Site} {D D' : SlotId → Prop} {n : Node}

/-! ### Steps of nodes -/

/-- A step on the slots, for a node. -/
theorem concur_inNode {α β : Type} {m : Step DeviceError Workspace α}
    {m' : Step DeviceError Workspace β} {B B' : DeviceError → Workspace → Prop}
    {Q : α → β → Workspace → Workspace → Prop} {Q' : α → β → Site → Site → Prop} (node : String)
    (stage : Stage) (h : Concur B B' Q Workspace.SameEnd (m s.workspace) (m' t.workspace))
    (hB : ∀ e w, B e w → Site.Denied s₀ (nodeError node stage e) (s.setWorkspace w))
    (hB' : ∀ e w, B' e w → Site.Denied t₀ (nodeError node stage e) (t.setWorkspace w))
    (hQ : ∀ a b w w', Q a b w w' → Q' a b (s.setWorkspace w) (t.setWorkspace w')) :
    Concur (Site.Denied s₀) (Site.Denied t₀) Q' Site.SameEnd (inNode node stage m s)
      (inNode node stage m' t) :=
  h.on_mapError Site.workspace Site.workspace hB hB' hQ
    fun _ _ _ _ h => ⟨congrArg (nodeError node stage) h.1, h.2⟩

/-- A step on one slot of a node. -/
theorem concur_slot {α β : Type} {m : Step DeviceError Workspace α}
    {m' : Step DeviceError Workspace β} {slot : SlotId} (stage : Stage)
    (h : Site.Twins κ s₀ t₀ D s t) (hn : n ∈ s₀.graph.nodes) (hslot : slot ∈ n.action.slots)
    (hm : Concur (Workspace.Denied s₀.workspace slot) (Workspace.Denied t₀.workspace slot)
      (fun _ _ v v' => Workspace.Twins κ s₀.workspace t₀.workspace D' v v') Workspace.SameEnd
      (m s.workspace) (m' t.workspace)) :
    Concur (Site.Denied s₀) (Site.Denied t₀) (fun _ _ s t => Site.Twins κ s₀ t₀ D' s t)
      Site.SameEnd (inNode (s₀.graph.qualified n.name) stage m s)
      (inNode (s₀.graph.qualified n.name) stage m' t) := by
  refine concur_inNode _ stage hm (fun _ _ => Site.denied_of_slot stage hn hslot) ?_
    fun _ _ _ _ hw => h.setWorkspace hw
  intro e w hd
  have hname : s₀.graph.qualified n.name = t₀.graph.qualified n.name := by
    rw [qualified, qualified, h.title]
  rw [hname]
  exact Site.denied_of_slot stage (h.nodes ▸ hn) hslot hd

/-- A call of the device. -/
theorem concur_call {α β : Type} {m : Step DeviceError Workspace α}
    {m' : Step DeviceError Workspace β} (node : String) {R : α → β → Prop}
    (h : Site.Twins κ s₀ t₀ D s t)
    (hm : Concur (fun _ v => Workspace.Struck s₀.workspace v)
      (fun _ v => Workspace.Struck t₀.workspace v)
      (fun a b v v' => R a b ∧ Workspace.Twins κ s₀.workspace t₀.workspace D' v v')
      Workspace.SameEnd (m s.workspace) (m' t.workspace)) :
    Concur (Site.Denied s₀) (Site.Denied t₀) (fun a b s t => R a b ∧ Site.Twins κ s₀ t₀ D' s t)
      Site.SameEnd (inNode node .launch m s) (inNode node .launch m' t) :=
  concur_inNode node .launch hm (fun _ _ => .inl) (fun _ _ => .inl)
    fun _ _ _ _ hw => ⟨hw.1, h.setWorkspace hw.2⟩

/-! ### Copies -/

/-- Copies to the device make device memory of all their slots the same. -/
theorem concur_streamIn {slots : List SlotId} (hs₀ : s₀.Sound κ) (hn : n ∈ s₀.graph.nodes)
    (hslots : ∀ slot ∈ slots, slot ∈ n.action.slots) (h : Site.Twins κ s₀ t₀ D s t) :
    Concur (Site.Denied s₀) (Site.Denied t₀)
      (fun _ _ s t => Site.Twins κ s₀ t₀ (fun x => D x ∨ x ∈ slots) s t) Site.SameEnd
      (transferIn (s₀.graph.qualified n.name) true slots s)
      (transferIn (s₀.graph.qualified n.name) true slots t) := by
  induction slots generalizing s t D with
  | nil => exact .ok (h.mono fun x hx => hx.resolve_right List.not_mem_nil)
  | cons slot r ih =>
    have hslot := hslots slot List.mem_cons_self
    refine (concur_slot .transfer h hn hslot
      (Workspace.concur_ensureAllocated h.workspace slot)).bind ?_
    intro _ _ s₁ t₁ _ _ h₁
    rw [bind_apply, get_apply, bind_apply, get_apply]
    dsimp only
    rw [Bool.true_or, Bool.true_or, if_pos rfl]
    refine (concur_slot .transfer h₁ hn hslot
      (Workspace.concur_upload h₁.workspace (h₁.has hs₀ hn hslot))).bind ?_
    intro _ _ s₂ t₂ _ _ h₂
    rw [bytesIn_bind, bytesIn_bind]
    refine (ih (fun x hx => hslots x (List.mem_cons_of_mem _ hx)) h₂).bind
      fun _ _ _ _ _ _ h₃ => .ok (h₃.mono ?_)
    intro x hx
    rcases hx with hx | hx
    · exact .inl (.inl hx)
    · exact (List.mem_cons.mp hx).imp_left .inr

/-- Copies of what is the same on the device leave host memory the same. -/
theorem concur_transferOut {slots : List SlotId} (hn : n ∈ s₀.graph.nodes)
    (hslots : ∀ slot ∈ slots, slot ∈ n.action.slots ∧ D slot) (h : Site.Twins κ s₀ t₀ D s t) :
    Concur (Site.Denied s₀) (Site.Denied t₀) (fun _ _ s t => Site.Twins κ s₀ t₀ D s t)
      Site.SameEnd (transferOut (s₀.graph.qualified n.name) slots s)
      (transferOut (s₀.graph.qualified n.name) slots t) := by
  induction slots generalizing s t with
  | nil => exact .ok h
  | cons slot r ih =>
    obtain ⟨hslot, hD⟩ := hslots slot List.mem_cons_self
    refine (concur_slot .transfer h hn hslot (Workspace.concur_download h.workspace hD)).bind ?_
    intro _ _ s₁ t₁ _ _ h₁
    rw [bytesIn_bind, bytesIn_bind]
    exact (ih (fun x hx => hslots x (List.mem_cons_of_mem _ hx)) h₁).bind
      fun _ _ _ _ _ _ h₂ => .ok h₂

/-! ### Launches -/

/-- Where room was made for slots one after the other, all of them have it. -/
theorem bytes_of_each {node : String} {stage : Stage} {slots : List SlotId} {s s' : Site}
    (hs : s.workspace.Sound) (hhas : ∀ slot ∈ slots, s.workspace.table.Has slot)
    (h : Step.each slots (fun slot => do
      let _ ← inNode node stage (Workspace.ensureAllocated slot)) s = (.ok (), s')) :
    Workspace.Serves (fun _ => False) s.workspace s'.workspace ∧
      ∀ slot ∈ slots, ∃ b, s'.workspace.deviceBytes slot = some b := by
  induction slots generalizing s with
  | nil =>
    cases h
    exact ⟨.refl _ hs, nofun⟩
  | cons slot r ih =>
    obtain ⟨_, s₁, hfirst, hrest⟩ := bind_eq_ok h
    obtain ⟨u, s₂, hroom, hpure⟩ := bind_eq_ok hfirst
    obtain rfl : s₂ = s₁ := congrArg Prod.snd hpure
    rw [inNode_apply] at hroom
    rcases hr : Workspace.ensureAllocated slot s.workspace with ⟨e | u', w⟩ <;> rw [hr] at hroom
    · cases hroom
    · cases hroom
      obtain ⟨hserves, -, ⟨-, -, hblock⟩ | ⟨⟨n, hn⟩, -⟩⟩ := Workspace.ensureAllocated_inv hs hr
      · obtain ⟨hserves', hbytes⟩ := ih (s := s.setWorkspace w) hserves.sound
          (fun x hx => (hserves.has x).mpr (hhas x (List.mem_cons_of_mem _ hx))) hrest
        refine ⟨hserves.trans hserves', ?_⟩
        intro x hx
        rcases List.mem_cons.mp hx with rfl | hx
        · obtain ⟨id, hid⟩ := hblock (hhas x List.mem_cons_self)
          obtain ⟨b, hb, -⟩ := hserves.sound.lends hid
          exact ⟨_, hserves'.bytes x _ not_false (Workspace.deviceBytes_of_lends hid hb)⟩
        · exact hbytes x hx
      · cases hn

/-- A kernel can be given the slots of a task that all have memory. -/
theorem exists_given {k : Kernel} {args : List TaskArg} {w : Workspace}
    (h : ∀ slot ∈ (Action.task k args).slots, ∃ b, w.deviceBytes slot = some b) :
    ∃ given, args.mapM (launchArg w.table) = .ok given := by
  rcases hgiven : args.mapM (launchArg w.table) with e | given
  · obtain ⟨arg, harg, he⟩ := exists_of_mapM_error hgiven
    cases arg with
    | scalar v => cases he
    | slot x =>
      obtain ⟨b, hb⟩ := h x (Action.mem_slots_task.mpr (List.getElem?_of_mem harg))
      rw [launchArg, SlotTable.launchArg] at he
      rcases ha : (w.table.get x).allocation with _ | a <;> rw [ha] at he
      · rw [Workspace.deviceBytes, SlotTable.block?, ha] at hb
        cases hb
      · cases he
  · exact ⟨given, rfl⟩

/-- Room is made for slots of a node, one after the other. -/
theorem concur_makeRoom (stage : Stage) {slots : List SlotId} (hn : n ∈ s₀.graph.nodes)
    (hslots : ∀ slot ∈ slots, slot ∈ n.action.slots) (h : Site.Twins κ s₀ t₀ D s t) :
    Concur (Site.Denied s₀) (Site.Denied t₀) (fun _ _ s t => Site.Twins κ s₀ t₀ D s t)
      Site.SameEnd
      (Step.each slots (fun slot => do
        let _ ← inNode (s₀.graph.qualified n.name) stage (Workspace.ensureAllocated slot)) s)
      (Step.each slots (fun slot => do
        let _ ← inNode (s₀.graph.qualified n.name) stage (Workspace.ensureAllocated slot)) t) := by
  induction slots generalizing s t with
  | nil => exact .ok h
  | cons slot r ih =>
    have hslot : Concur (Site.Denied s₀) (Site.Denied t₀)
        (fun (_ _ : Unit) s t => Site.Twins κ s₀ t₀ D s t) Site.SameEnd
        ((inNode (s₀.graph.qualified n.name) stage (Workspace.ensureAllocated slot) >>=
          fun _ => pure ()) s)
        ((inNode (s₀.graph.qualified n.name) stage (Workspace.ensureAllocated slot) >>=
          fun _ => pure ()) t) :=
      (concur_slot stage h hn (hslots slot List.mem_cons_self)
        (Workspace.concur_ensureAllocated h.workspace slot)).bind fun _ _ _ _ _ _ h => .ok h
    exact hslot.bind fun _ _ s₁ t₁ _ _ h₁ =>
      ih (fun x hx => hslots x (List.mem_cons_of_mem _ hx)) h₁

/-- A functional kernel makes device memory of all slots of its task the same. -/
theorem concur_task {k : Kernel} {args : List TaskArg} (hs₀ : s₀.Sound κ)
    (hn : n ∈ s₀.graph.nodes) (ha : n.action = .task k args) (hfun : k.Functional)
    (hneeds : ∀ slot, (Action.task k args).Needs slot → D slot) (h : Site.Twins κ s₀ t₀ D s t) :
    Concur (Site.Denied s₀) (Site.Denied t₀)
      (fun _ _ s t => Site.Twins κ s₀ t₀ (fun x => D x ∨ x ∈ (Action.task k args).slots) s t)
      Site.SameEnd (launch (s₀.graph.qualified n.name) k args s)
      (launch (s₀.graph.qualified n.name) k args t) := by
  have hslots : ∀ slot ∈ (Action.task k args).slots, slot ∈ n.action.slots := fun slot hslot =>
    ha ▸ hslot
  have hknown : κ k.id = k := by
    have hk := hs₀.known n hn
    rw [ha] at hk
    exact hk
  -- with room for all slots on either side, the kernel is given memory on both or on none
  refine (concur_makeRoom .launch hn hslots h).bind ?_
  intro _ _ s₁ t₁ hroom hroom' h₁
  have hleft := bytes_of_each h.workspace.left.sound
    (fun slot hslot => h.has hs₀ hn (hslots slot hslot)) hroom
  have hright := bytes_of_each h.workspace.right.sound
    (fun slot hslot => (h.workspace.has slot).mpr (h.has hs₀ hn (hslots slot hslot))) hroom'
  obtain ⟨given, hgiven⟩ := exists_given hleft.2
  obtain ⟨given', hgiven'⟩ := exists_given hright.2
  refine (concur_call (s₀.graph.qualified n.name) h₁
    (Workspace.concur_compile h₁.workspace hknown)).bind ?_
  intro p p' s₂ t₂ hcompile hcompile' h₂
  obtain ⟨⟨hp, hp'⟩, h₂⟩ := h₂
  -- compiling has left the tables alone
  have htable : s₁.graph.table = s₂.graph.table := congrArg (fun x => x.2.graph.table) hcompile
  have htable' : t₁.graph.table = t₂.graph.table := congrArg (fun x => x.2.graph.table) hcompile'
  have hgiven₂ : args.mapM (launchArg s₂.graph.table) = .ok given := htable ▸ hgiven
  have hgiven₂' : args.mapM (launchArg t₂.graph.table) = .ok given' := htable' ▸ hgiven'
  rw [bind_apply, get_apply, bind_apply, get_apply]
  dsimp only
  rw [hgiven₂, hgiven₂', hp, hp']
  have hlaunch := Workspace.concur_launch h₂.workspace hfun hgiven₂ hgiven₂' hneeds
  exact (concur_call (R := fun _ _ => True) (s₀.graph.qualified n.name) h₂
    (hlaunch.mono fun _ _ _ _ hw => ⟨trivial, hw⟩)).bind fun _ _ _ _ _ _ h₃ => .ok h₃.2

/-! ### Nodes -/

/-- A node of any kind but one that copies only what is stale. -/
theorem concur_perform (hs₀ : s₀.Sound κ) (hn : n ∈ s₀.graph.nodes)
    (hkind : n.action.kind ≠ .copyIn)
    (hfun : ∀ k args, n.action = .task k args → k.Functional)
    (hneeds : ∀ slot, n.action.Needs slot → D slot) (h : Site.Twins κ s₀ t₀ D s t) :
    Concur (Site.Denied s₀) (Site.Denied t₀)
      (fun _ _ s t => Site.Twins κ s₀ t₀ (fun x => D x ∨ x ∈ n.action.slots) s t) Site.SameEnd
      (perform (s₀.graph.qualified n.name) n.action s)
      (perform (s₀.graph.qualified n.name) n.action t) := by
  cases ha : n.action with
  | streamIn slots =>
    exact concur_streamIn hs₀ hn (fun slot hslot => by rw [ha]; exact hslot) h
  | copyIn slots =>
    rw [ha] at hkind
    exact absurd rfl hkind
  | task k args =>
    rw [ha] at hneeds
    exact (concur_task hs₀ hn ha (hfun k args ha) hneeds h).bind fun _ _ _ _ _ _ h => .ok h
  | streamOut slots =>
    rw [ha] at hneeds
    refine (concur_transferOut hn (fun slot hslot => ⟨by rw [ha]; exact hslot, hneeds slot hslot⟩)
      h).mono fun _ _ _ _ h => h.mono ?_
    intro x hx
    exact hx.elim id (hneeds x)
  | barrier =>
    have hcall := concur_call (R := fun _ _ => True) (s₀.graph.qualified n.name) h
      ((Workspace.concur_synchronize h.workspace).mono fun _ _ _ _ hw => ⟨trivial, hw⟩)
    exact hcall.bind fun _ _ _ _ _ _ h => .ok (h.2.mono fun x hx =>
      hx.resolve_right List.not_mem_nil)

/-- Nodes in order, each of which finds what it needs. -/
theorem concur_each {ns : List Node} (run run' : Nat) (hs₀ : s₀.Sound κ)
    (hns : ∀ n ∈ ns, n ∈ s₀.graph.nodes) (hkind : ∀ n ∈ ns, n.action.kind ≠ .copyIn)
    (hfun : ∀ n ∈ ns, ∀ k args, n.action = .task k args → k.Functional) (hord : Ordered D ns)
    (h : Site.Twins κ s₀ t₀ D s t) :
    Concur (Site.Denied s₀) (Site.Denied t₀)
      (fun _ _ s t => Site.Twins κ s₀ t₀ (fun _ => False) s t) Site.SameEnd
      (Step.each ns (runNode run) s) (Step.each ns (runNode run') t) := by
  -- `D` grows by the slots of each node, and `hord` says that this is enough for the next
  induction ns generalizing s t D with
  | nil => exact .ok (h.mono nofun)
  | cons n r ih =>
    have hname : ∀ x : Site, x.graph.name = s₀.graph.name →
        x.graph.qualified n.name = s₀.graph.qualified n.name := fun x hx => by
      rw [qualified, qualified, hx]
    have hnode : Concur (Site.Denied s₀) (Site.Denied t₀)
        (fun _ _ s t => Site.Twins κ s₀ t₀ (fun x => D x ∨ x ∈ n.action.slots) s t) Site.SameEnd
        (runNode run n s) (runNode run' n t) := by
      rw [runNode_apply, runNode_apply, hname s h.left, hname t (h.right.trans h.title)]
      exact (concur_perform hs₀ (hns n List.mem_cons_self) (hkind n List.mem_cons_self)
        (hfun n List.mem_cons_self) hord.1 h).bind fun _ _ _ _ _ _ h =>
          .ok (h.withGraph _ _ ⟨rfl, rfl⟩ ⟨rfl, rfl⟩)
    exact hnode.bind fun _ _ _ _ _ _ h => ih (fun m hm => hns m (List.mem_cons_of_mem _ hm))
      (fun m hm => hkind m (List.mem_cons_of_mem _ hm))
      (fun m hm => hfun m (List.mem_cons_of_mem _ hm)) hord.2 h

/-! ### Runs -/

/-- A run of the graph meets a call of the device that fails, or the limit of device memory: it
ends for want of memory at a node, and there is no room for one of the slots of the node. -/
def Disturbed (s : Site) : Prop :=
  (∃ c, Device.Fails c s.workspace.device (execute s).2.workspace.device) ∨
    ∃ n ∈ s.graph.nodes, ∃ slot ∈ n.action.slots,
      (∃ source, (execute s).1 = .error (.deviceOutOfMemory (s.graph.qualified n.name) source)) ∧
        (execute s).2.workspace.Full slot

theorem disturbed_of_broken (h : Broken (Site.Denied s) (execute s)) : Disturbed s := by
  obtain ⟨e, he, hd | ⟨n, hn, slot, hslot, ⟨source, rfl⟩, hfull⟩⟩ := h
  · exact .inl hd
  · exact .inr ⟨n, hn, slot, hslot, ⟨source, he⟩, hfull⟩

/-- A device that never fails and has as much memory as anybody wants disturbs no run. -/
theorem not_disturbed (hs : s.Sound κ)
    (hfaults : ∀ c n, s.machine.context.device.faults c n = false)
    (hcapacity : s.machine.context.device.pool.arena.capacity = none) : ¬ Disturbed s := by
  rintro (⟨c, n, -, -, hn⟩ | ⟨n, -, slot, -, -, hfull⟩)
  · exact Bool.noConfusion ((hfaults c n).symm.trans hn)
  · have hrules := ((progress_execute hs).advances hs).rules
    exact Workspace.not_full (hrules.capacity.trans hcapacity) slot hfull

/-- All nodes of a graph, with the wait for the device in the end. -/
theorem concur_runAll (run run' : Nat) (hs₀ : s₀.Sound κ)
    (hkind : ∀ n ∈ s₀.graph.nodes, n.action.kind ≠ .copyIn)
    (hfun : ∀ n ∈ s₀.graph.nodes, ∀ k args, n.action = .task k args → k.Functional)
    (h : Site.Twins κ s₀ t₀ (fun _ => False) s t) (hl : s.graph.nodes = s₀.graph.nodes)
    (hr : t.graph.nodes = t₀.graph.nodes) :
    Concur (Site.Denied s₀) (Site.Denied t₀)
      (fun _ _ s t => Site.Twins κ s₀ t₀ (fun _ => False) s t) Site.SameEnd
      (runAll run s) (runAll run' t) := by
  rw [runAll_apply, runAll_apply, hl, hr, h.nodes, h.qualified]
  refine (concur_each run run' hs₀ (fun _ hn => hn) hkind hfun hs₀.built.ordered h).bind ?_
  intro _ _ s₁ t₁ _ _ h₁
  exact (concur_call (R := fun _ _ => True) _ h₁
    ((Workspace.concur_synchronize h₁.workspace).mono fun _ _ _ _ hw => ⟨trivial, hw⟩)).mono
      fun _ _ _ _ h₂ => h₂.2

/-- A run on either side. Nothing but host memory is known to be the same in the beginning. -/
theorem concur_execute (h : Site.Twins κ s t (fun _ => False) s t) (hs : s.Sound κ)
    (hlive : s.graph.phase ≠ .disposed) (hlive' : t.graph.phase ≠ .disposed)
    (hkind : ∀ n ∈ s.graph.nodes, n.action.kind ≠ .copyIn)
    (hfun : ∀ n ∈ s.graph.nodes, ∀ k args, n.action = .task k args → k.Functional) :
    Concur (Site.Denied s) (Site.Denied t)
      (fun _ _ s t => t.machine.hosts.contents = s.machine.hosts.contents) Site.SameEnd
      (execute s) (execute t) := by
  rw [execute_apply, if_neg hlive, execute_apply, if_neg hlive']
  have hrun := concur_runAll (s.graph.runs + 1) (t.graph.runs + 1) hs hkind hfun
    (h.withGraph ({ · with phase := .executing }) ({ · with phase := .executing }) ⟨rfl, rfl⟩
      ⟨rfl, rfl⟩) rfl rfl
  rcases hl : runAll (s.graph.runs + 1) (s.withGraph ({ · with phase := .executing })) with ⟨r, s₁⟩
  rcases hr : runAll (t.graph.runs + 1) (t.withGraph ({ · with phase := .executing })) with ⟨r', t₁⟩
  rw [hl, hr] at hrun
  rcases hrun with ⟨e, rfl, hd⟩ | ⟨e, rfl, hd⟩ | hrun
  · exact .inl ⟨e, rfl, hd⟩
  · exact .inr (.inl ⟨e, rfl, hd⟩)
  · cases hrun with
    | ok h₁ => exact .ok h₁.workspace.hosts
    | error h₁ =>
      obtain ⟨rfl, hhosts⟩ := h₁
      exact .error ⟨rfl, hhosts⟩

/-- Two runs of the same nodes, neither of which is disturbed, come to the same end. -/
theorem execute_twins (h : Site.Twins κ s t (fun _ => False) s t) (hs : s.Sound κ)
    (hlive : s.graph.phase ≠ .disposed) (hlive' : t.graph.phase ≠ .disposed)
    (hkind : ∀ n ∈ s.graph.nodes, n.action.kind ≠ .copyIn)
    (hfun : ∀ n ∈ s.graph.nodes, ∀ k args, n.action = .task k args → k.Functional)
    (hd : ¬ Disturbed s) (hd' : ¬ Disturbed t) :
    (execute t).1.map (fun _ => ()) = (execute s).1.map (fun _ => ()) ∧
      (execute t).2.machine.hosts.contents = (execute s).2.machine.hosts.contents := by
  have hrun := concur_execute h hs hlive hlive' hkind hfun
  rcases hrun with hbroken | hbroken | hrun
  · exact absurd (disturbed_of_broken hbroken) hd
  · exact absurd (disturbed_of_broken hbroken) hd'
  · rcases hl : execute s with ⟨r, s₁⟩
    rcases hr : execute t with ⟨r', t₁⟩
    rw [hl, hr] at hrun
    cases hrun with
    | ok hhosts => exact ⟨rfl, hhosts⟩
    | error hend =>
      obtain ⟨rfl, hhosts⟩ := hend
      exact ⟨rfl, hhosts⟩

end Graph

end Offload
