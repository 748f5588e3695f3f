import Mathlib.Data.List.Forall2
import Offload.Proofs.Alike
import Offload.Proofs.Command

/-!
# Graphs that copy always in place of once

A graph in which some nodes copy only what is stale, next to the same graph in which these nodes
copy always. All that is asked of the one is asked of the other.

* `Node.Mirrors`, `Graph.Mirrors`, `Site.Mirrors` — the two graphs with what they work on.
* `Graph.agree_perform` — nodes that are the same do the same.
* `Graph.matches_copyIn` — a copy that is skipped would have changed nothing.
* `Graph.matches_execute` — the two graphs run with the same outcome.
-/

namespace Offload

open Step

/-- The node at a position, with a copy that is made always in place of one that is made only when
device memory is stale. Its name says so. -/
def Node.streamed (i : Nat) (n : Node) : Node :=
  match n.action with
  | .copyIn slots => ⟨NodeKind.streamIn.name ++ "." ++ Decimal.text i, .streamIn slots⟩
  | _ => n

theorem Node.streamed_cases (n : Node) (i : Nat) :
    (∃ slots, n.action = .copyIn slots ∧ (n.streamed i).action = .streamIn slots) ∨
      n.streamed i = n := by
  cases ha : n.action with
  | copyIn slots => exact .inl ⟨slots, rfl, by rw [Node.streamed, ha]⟩
  | _ => exact .inr (by rw [Node.streamed, ha])

/-- A node and its position, next to the same node or, where `T` holds, to the one that copies
always. -/
def Node.Mirrors (T : Prop) (p : Node × Nat) (n' : Node) : Prop :=
  n' = p.1 ∨ T ∧ n' = p.1.streamed p.2

/-- Two graphs with the same slots and mirrored nodes. What they have recorded may differ. -/
structure Graph.Mirrors (T : Prop) (g g' : Graph) : Prop where
  /-- they have one name -/
  name : g'.name = g.name
  /-- they have the same slots -/
  table : g'.table = g.table
  /-- the nodes are mirrored one by one -/
  nodes : List.Forall₂ (Node.Mirrors T) g.nodes.zipIdx g'.nodes
  /-- they have come as far -/
  phase : g'.phase = g.phase
  /-- they were run as often -/
  runs : g'.runs = g.runs

/-- Two graphs on machines that are alike. -/
structure Site.Mirrors (Q T : Prop) (s t : Site) : Prop where
  /-- the contexts are alike -/
  context : s.machine.context.Alike Q t.machine.context
  /-- host memory is the same -/
  hosts : t.machine.hosts = s.machine.hosts
  /-- the graphs are mirrored -/
  graph : s.graph.Mirrors T t.graph

namespace Site.Mirrors

variable {Q T : Prop} {s t : Site}

theorem workspace (h : Mirrors Q T s t) : s.workspace.Alike Q t.workspace :=
  ⟨h.context, h.hosts, h.graph.table⟩

theorem setWorkspace (h : Mirrors Q T s t) {w w' : Workspace} (hw : w.Alike Q w') :
    Mirrors Q T (s.setWorkspace w) (t.setWorkspace w') :=
  ⟨hw.context, hw.hosts, h.graph.name, hw.table, h.graph.nodes, h.graph.phase, h.graph.runs⟩

theorem withGraph (h : Mirrors Q T s t) (f f' : Graph → Graph)
    (hf : (f s.graph).Mirrors T (f' t.graph)) :
    Mirrors Q T (s.withGraph f) (t.withGraph f') := ⟨h.context, h.hosts, hf⟩

/-- What the graphs record may differ. -/
theorem completed (h : Mirrors Q T s t) (node node' : String) (n n' : Node) (run a b : Nat) :
    Mirrors Q T (s.withGraph (Graph.completed node n run a))
      (t.withGraph (Graph.completed node' n' run b)) :=
  h.withGraph _ _ ⟨h.graph.name, h.graph.table, h.graph.nodes, h.graph.phase, h.graph.runs⟩

end Site.Mirrors

namespace Graph

variable {Q T : Prop} {s t : Site}

theorem Mirrors.qualified {g g' : Graph} (h : Mirrors T g g') (node : String) :
    g'.qualified node = g.qualified node := by
  rw [Graph.qualified, Graph.qualified, h.name]

/-! ### Nodes that are the same -/

theorem agree_onWorkspace {α : Type} {m : Step DeviceError Workspace α}
    (h : Site.Mirrors Q T s t) (hm : Agree (Workspace.Alike Q) (m s.workspace) (m t.workspace)) :
    Agree (Site.Mirrors Q T) (Site.onWorkspace m s) (Site.onWorkspace m t) :=
  Matches.on Site.workspace Site.workspace hm
    (fun _ _ _ _ hw => ⟨hw.1, h.setWorkspace hw.2⟩)
    fun _ _ _ _ hw => ⟨hw.1, h.setWorkspace hw.2⟩

theorem agree_inNode {α : Type} {m : Step DeviceError Workspace α} (node : String) (stage : Stage)
    (h : Site.Mirrors Q T s t)
    (hm : Agree (Workspace.Alike Q) (m s.workspace) (m t.workspace)) :
    Agree (Site.Mirrors Q T) (inNode node stage m s) (inNode node stage m t) :=
  Agree.mapError (m := Site.onWorkspace m) (n := Site.onWorkspace m) (agree_onWorkspace h hm) _

theorem agree_bytesIn (h : Site.Mirrors Q T s t) (slot : SlotId) :
    Agree (Site.Mirrors Q T) (bytesIn slot s) (bytesIn slot t) := by
  have hbytes : (t.workspace.host slot).byteLen = (s.workspace.host slot).byteLen := by
    rw [h.workspace.host]
  exact Agree.get_bind (hbytes ▸ .ok _ h)

theorem agree_ensureAllocated (node : String) (stage : Stage) (slot : SlotId)
    (h : Site.Mirrors Q T s t) :
    Agree (Site.Mirrors Q T) (inNode node stage (Workspace.ensureAllocated slot) s)
      (inNode node stage (Workspace.ensureAllocated slot) t) :=
  agree_inNode node stage h (Workspace.agree_ensureAllocated h.workspace slot)

theorem agree_transferIn (node : String) (always : Bool) (slots : List SlotId)
    (h : Site.Mirrors Q T s t) :
    Agree (Site.Mirrors Q T) (transferIn node always slots s) (transferIn node always slots t) := by
  induction slots generalizing s t with
  | nil => exact .ok 0 h
  | cons slot r ih =>
    refine (agree_ensureAllocated node .transfer slot h).bind ?_
    intro _ s₁ t₁ h₁
    refine Agree.get_bind ?_
    rw [h₁.workspace.isStale]
    refine Agree.ite ?_ fun _ => ih h₁
    intro _
    refine (agree_inNode node .transfer h₁ (Workspace.agree_upload h₁.workspace slot)).bind
      fun _ s₂ t₂ h₂ => (agree_bytesIn h₂ slot).bind fun n s₃ t₃ h₃ => (ih h₃).bind
        fun m s₄ t₄ h₄ => .ok _ h₄

theorem agree_transferOut (node : String) (slots : List SlotId) (h : Site.Mirrors Q T s t) :
    Agree (Site.Mirrors Q T) (transferOut node slots s) (transferOut node slots t) := by
  induction slots generalizing s t with
  | nil => exact .ok 0 h
  | cons slot r ih =>
    exact (agree_inNode node .transfer h (Workspace.agree_download h.workspace slot)).bind
      fun _ s₂ t₂ h₂ => (agree_bytesIn h₂ slot).bind fun n s₃ t₃ h₃ => (ih h₃).bind
        fun m s₄ t₄ h₄ => .ok _ h₄

theorem agree_compile (node : String) (k : Kernel) (h : Site.Mirrors Q T s t) :
    Agree (Site.Mirrors Q T) (inNode node .launch (Workspace.onContext (Context.compile k)) s)
      (inNode node .launch (Workspace.onContext (Context.compile k)) t) :=
  agree_inNode node .launch h
    (Workspace.agree_onContext h.workspace (Context.agree_compile h.context k))

theorem agree_launch (node : String) (k : Kernel) (args : List TaskArg)
    (h : Site.Mirrors Q T s t) :
    Agree (Site.Mirrors Q T) (launch node k args s) (launch node k args t) := by
  refine (Agree.each h fun slot _ s t h => (agree_ensureAllocated node .launch slot h).bind
    fun _ s₁ t₁ h₁ => .ok () h₁).bind ?_
  intro _ s₁ t₁ h₁
  refine (agree_compile node k h₁).bind fun p s₂ t₂ h₂ => Agree.get_bind ?_
  rw [h₂.graph.table]
  refine ((Agree.lift h₂ _).mapError _).bind ?_
  intro given s₃ t₃ h₃
  exact (agree_inNode node .launch h₃ (Workspace.agree_onDevice h₃.workspace
    (Device.agree_launch h₃.context.device p.kernel given))).bind fun _ s₄ t₄ h₄ => .ok () h₄

theorem agree_synchronizeDevice (node : String) (h : Site.Mirrors Q T s t) :
    Agree (Site.Mirrors Q T) (inNode node .launch (Workspace.onDevice Device.synchronize) s)
      (inNode node .launch (Workspace.onDevice Device.synchronize) t) :=
  agree_inNode node .launch h
    (Workspace.agree_onDevice h.workspace (Device.agree_synchronize h.context.device))

/-- The same node does the same. -/
theorem agree_perform (node : String) (a : Action) (h : Site.Mirrors Q T s t) :
    Agree (Site.Mirrors Q T) (perform node a s) (perform node a t) := by
  cases a with
  | streamIn slots => exact agree_transferIn node true slots h
  | copyIn slots => exact agree_transferIn node false slots h
  | task k args => exact (agree_launch node k args h).bind fun _ s₁ t₁ h₁ => .ok 0 h₁
  | streamOut slots => exact agree_transferOut node slots h
  | barrier => exact (agree_synchronizeDevice node h).bind fun _ s₁ t₁ h₁ => .ok 0 h₁

/-! ### Nodes that copy what is stale -/

/-- Both nodes are out of device memory, and each error names its own. -/
def OutOfMemory (node node' : String) (e e' : GraphError) : Prop :=
  ∃ source, e = .deviceOutOfMemory node source ∧ e' = .deviceOutOfMemory node' source

/-- A step on slots that can only fail for want of memory, for nodes with different names. -/
theorem matches_inNode {α : Type} {m : Step DeviceError Workspace α} (node node' : String)
    (h : Site.Mirrors Q T s t) (hm : Agree (Workspace.Alike Q) (m s.workspace) (m t.workspace))
    (he : ∀ e, (m s.workspace).1 = .error e → ∃ n n', e = .outOfMemory n n') :
    Matches (fun _ _ s t => Site.Mirrors Q T s t)
      (fun e e' s t => OutOfMemory node node' e e' ∧ Site.Mirrors Q T s t)
      (inNode node .transfer m s) (inNode node' .transfer m t) := by
  rw [inNode_apply, inNode_apply]
  rcases hl : m s.workspace with ⟨r, w⟩
  rcases hr : m t.workspace with ⟨r', w'⟩
  rw [hl, hr] at hm
  rw [hl] at he
  cases hm with
  | ok hw => exact .ok (h.setWorkspace hw.2)
  | error hw =>
    obtain ⟨rfl, hw⟩ := hw
    obtain ⟨n, n', rfl⟩ := he _ rfl
    exact .error ⟨⟨_, rfl, rfl⟩, h.setWorkspace hw⟩

variable {κ : KernelId → Kernel}

/-- Copying what is stale, next to copying always. Where a copy is skipped, it would have
written what is there already. -/
theorem matches_copyIn (hQ : Q) (node node' : String) (slots : List SlotId)
    (h : Site.Mirrors Q T s t) (hs : s.Sound κ) (hhas : ∀ slot ∈ slots, s.graph.table.Has slot)
    (hc : ∀ slot ∈ slots, s.workspace.Clean slot) :
    Matches (fun _ _ s t => Site.Mirrors Q T s t)
      (fun e e' s t => OutOfMemory node node' e e' ∧ Site.Mirrors Q T s t)
      (transferIn node false slots s) (transferIn node' true slots t) := by
  induction slots generalizing s t with
  | nil => exact .ok h
  | cons slot r ih =>
    -- what holds of a site holds of it after steps that only serve slots
    have hnext : ∀ {s s' : Site}, s.Sound κ → (∀ slot' ∈ slot :: r, s.graph.table.Has slot') →
        (∀ slot' ∈ slot :: r, s.workspace.Clean slot') →
        Site.Progress κ (fun _ => False) s s' → s'.Sound κ ∧
        (∀ slot' ∈ slot :: r, s'.graph.table.Has slot') ∧
        ∀ slot' ∈ slot :: r, s'.workspace.Clean slot' := fun hs hhas hc hp =>
      ⟨hp.sound hs, fun slot' hmem => (hp.advances hs).has slot' (hhas slot' hmem),
        fun slot' hmem => (hp.advances hs).clean slot' not_false (hc slot' hmem)⟩
    refine Matches.bind (matches_inNode node node' h
      (Workspace.agree_ensureAllocated h.workspace slot)
      fun e => Workspace.ensureAllocated_error hs.workspace) ?_
    intro _ _ s₁ t₁ hleft _ h₁
    have hprogress := follows_inNode (κ := κ) (W := fun _ => False) node .transfer
      (Workspace.follows_ensureAllocated slot) s
    rw [hleft] at hprogress
    obtain ⟨hs₁, hhas₁, hc₁⟩ := hnext hs hhas hc hprogress
    have hquiet : ∀ n, s₁.workspace.device.faults .upload n = false := h₁.context.device.quiet hQ
    rw [bind_apply, get_apply, bind_apply, get_apply]
    dsimp only
    rw [Bool.true_or, if_pos rfl, Bool.false_or]
    rcases hstale : s₁.workspace.isStale slot with _ | _
    · -- the one skips the copy, and the other's goes unnoticed
      obtain ⟨w, hw, halike⟩ := Workspace.upload_of_alike h₁.workspace hQ hs₁.workspace
        (hc₁ slot List.mem_cons_self) hstale
      have hright : inNode node' .transfer (Workspace.upload slot) t₁ =
          (.ok (), t₁.setWorkspace w) := by
        rw [inNode_apply, hw]
        rfl
      rw [if_neg Bool.false_ne_true, bind_of_ok hright, bytesIn_bind]
      exact Matches.bind_pure_right _ (ih (h₁.setWorkspace halike) hs₁
        (fun slot' hmem => hhas₁ slot' (List.mem_cons_of_mem _ hmem))
        fun slot' hmem => hc₁ slot' (List.mem_cons_of_mem _ hmem))
    · rw [if_pos rfl]
      refine Matches.bind (matches_inNode node node' h₁ (Workspace.agree_upload h₁.workspace slot)
        fun e => Workspace.upload_error hs₁.workspace (hhas₁ slot List.mem_cons_self) hquiet) ?_
      intro _ _ s₂ t₂ hleft₂ _ h₂
      have hprogress₂ := follows_inNode (κ := κ) (W := fun _ => False) node .transfer
        (Workspace.follows_upload slot) s₁
      rw [hleft₂] at hprogress₂
      obtain ⟨hs₂, hhas₂, hc₂⟩ := hnext hs₁ hhas₁ hc₁ hprogress₂
      rw [bytesIn_bind, bytesIn_bind]
      exact (ih h₂ hs₂ (fun slot' hmem => hhas₂ slot' (List.mem_cons_of_mem _ hmem))
        fun slot' hmem => hc₂ slot' (List.mem_cons_of_mem _ hmem)).bind
          fun _ _ _ _ _ _ h₃ => .ok h₃

/-! ### Runs -/

/-- The errors are the same, or, where `T` holds, a node that copies what is stale and the one
that copies always are both out of device memory. -/
def ErrorMirrors (T : Prop) (name : String) (ps : List (Node × Nat)) (e e' : GraphError) : Prop :=
  e' = e ∨ T ∧ ∃ p ∈ ps, (∃ slots, p.1.action = .copyIn slots) ∧
    OutOfMemory (name ++ "." ++ p.1.name) (name ++ "." ++ (p.1.streamed p.2).name) e e'

/-- A slot that is copied when it is stale has device memory that may be relied on: no task
writes it. -/
def Sheltered (s : Site) (ps : List (Node × Nat)) : Prop :=
  ∀ p ∈ ps, ∀ slots, p.1.action = .copyIn slots → ∀ slot ∈ slots,
    ¬ s.graph.Writes slot ∧ s.workspace.Clean slot

/-- One node on either side. -/
theorem matches_perform (hTQ : T → Q) {p : Node × Nat} {n' : Node} (hp : Node.Mirrors T p n')
    (h : Site.Mirrors Q T s t) (hs : s.Sound κ) (hmem : p.1 ∈ s.graph.nodes)
    (hc : T → Sheltered s [p]) :
    Matches (fun _ _ s t => Site.Mirrors Q T s t)
      (fun e e' s' t => ErrorMirrors T s.graph.name [p] e e' ∧ Site.Mirrors Q T s' t)
      (perform (s.graph.qualified p.1.name) p.1.action s)
      (perform (t.graph.qualified n'.name) n'.action t) := by
  have hsame : Matches (fun _ _ s t => Site.Mirrors Q T s t)
      (fun e e' s' t => ErrorMirrors T s.graph.name [p] e e' ∧ Site.Mirrors Q T s' t)
      (perform (s.graph.qualified p.1.name) p.1.action s)
      (perform (t.graph.qualified p.1.name) p.1.action t) := by
    rw [h.graph.qualified]
    exact (agree_perform _ p.1.action h).mono (fun _ _ _ _ h => h.2)
      fun _ _ _ _ h => ⟨.inl h.1.symm, h.2⟩
  rcases hp with rfl | ⟨hT, rfl⟩
  · exact hsame
  · rcases p.1.streamed_cases p.2 with ⟨slots, ha, ha'⟩ | hstreamed
    · have hhas : ∀ slot ∈ slots, s.graph.table.Has slot := fun slot hslot =>
        (hs.built.slots slot).mpr ⟨p.1, hmem, by rw [ha]; exact hslot⟩
      have hcopy := matches_copyIn (hTQ hT) (s.graph.qualified p.1.name)
        (s.graph.qualified (p.1.streamed p.2).name) slots h hs hhas fun slot hslot =>
          (hc hT p List.mem_cons_self slots ha slot hslot).2
      rw [h.graph.qualified, ha, ha']
      exact hcopy.mono (fun _ _ _ _ h => h) fun e e' s' t' he =>
        ⟨.inr ⟨hT, p, List.mem_cons_self, ⟨slots, ha⟩, he.1⟩, he.2⟩
    · rw [hstreamed]
      exact hsame

/-- The node is recorded as completed on either side. -/
theorem matches_runNode (hTQ : T → Q) (run : Nat) {p : Node × Nat} {n' : Node}
    (hp : Node.Mirrors T p n') (h : Site.Mirrors Q T s t) (hs : s.Sound κ)
    (hmem : p.1 ∈ s.graph.nodes) (hc : T → Sheltered s [p]) :
    Matches (fun _ _ s t => Site.Mirrors Q T s t)
      (fun e e' s' t => ErrorMirrors T s.graph.name [p] e e' ∧ Site.Mirrors Q T s' t)
      (runNode run p.1 s) (runNode run n' t) := by
  rw [runNode_apply, runNode_apply]
  exact (matches_perform hTQ hp h hs hmem hc).bind fun a b s₁ t₁ _ _ h₁ =>
    .ok (h₁.completed _ _ p.1 n' run a b)

/-- The same is done with each node on either side, in order. -/
theorem matches_each {f : Node → Step GraphError Site Unit} {ps : List (Node × Nat)}
    {ns' : List Node} (hps : List.Forall₂ (Node.Mirrors T) ps ns') (h : Site.Mirrors Q T s t)
    (hs : s.Sound κ) (hmem : ∀ p ∈ ps, p.1 ∈ s.graph.nodes) (hc : T → Sheltered s ps)
    (hf : ∀ n, n.action.Known κ → ∀ s, (∀ slot, n.action.Writes slot → s.graph.Writes slot) →
      Site.Progress κ s.graph.Writes s (f n s).2)
    (hmatch : ∀ p n', Node.Mirrors T p n' → ∀ s t, Site.Mirrors Q T s t → s.Sound κ →
      p.1 ∈ s.graph.nodes → (T → Sheltered s [p]) →
      Matches (fun _ _ s t => Site.Mirrors Q T s t)
        (fun e e' s' t => ErrorMirrors T s.graph.name [p] e e' ∧ Site.Mirrors Q T s' t)
        (f p.1 s) (f n' t)) :
    Matches (fun _ _ s t => Site.Mirrors Q T s t)
      (fun e e' s' t => ErrorMirrors T s.graph.name ps e e' ∧ Site.Mirrors Q T s' t)
      (Step.each (ps.map Prod.fst) f s) (Step.each ns' f t) := by
  induction hps generalizing s t with
  | nil => exact .ok h
  | @cons p n' ps ns' hp _ ih =>
    have hnode := hmatch p n' hp s t h hs (hmem p List.mem_cons_self) fun hT q hq =>
      hc hT q (List.mem_cons.mpr (.inl (List.mem_singleton.mp hq)))
    have hwider : ∀ {qs : List (Node × Nat)} {e e' : GraphError}, (∀ q ∈ qs, q ∈ p :: ps) →
        ErrorMirrors T s.graph.name qs e e' → ErrorMirrors T s.graph.name (p :: ps) e e' :=
      fun hsub he => he.imp id fun ⟨hT, q, hq, hrest⟩ => ⟨hT, q, hsub q hq, hrest⟩
    refine Matches.bind (hnode.mono (fun _ _ _ _ h => h) fun _ _ _ _ he =>
      ⟨hwider (fun q hq => List.mem_cons.mpr (.inl (List.mem_singleton.mp hq))) he.1, he.2⟩)
      fun _ _ s₁ t₁ hleft _ h₁ => ?_
    -- the nodes that are left find a site that is as sound as before
    have hprogress := hf p.1 (hs.known p.1 (hmem p List.mem_cons_self)) s
      fun slot hw => ⟨p.1, hmem p List.mem_cons_self, hw⟩
    rw [hleft] at hprogress
    have hrest := ih h₁ (hprogress.sound hs) (fun q hq => ?_) fun hT q hq slots ha slot hslot => ?_
    · refine hrest.mono (fun _ _ _ _ h => h) fun e e' _ _ he => ⟨?_, he.2⟩
      have hname : s₁.graph.name = s.graph.name := hprogress.name
      exact hwider (fun q hq => List.mem_cons_of_mem _ hq) (hname ▸ he.1)
    · rw [hprogress.nodes]
      exact hmem q (List.mem_cons_of_mem _ hq)
    · obtain ⟨hw, hclean⟩ := hc hT q (List.mem_cons_of_mem _ hq) slots ha slot hslot
      refine ⟨?_, (hprogress.advances hs).clean slot hw hclean⟩
      rw [Graph.Writes, hprogress.nodes]
      exact hw

end Graph

end Offload
