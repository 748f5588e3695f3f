import Offload.Proofs.Ahead

/-!
# Runs that lag behind

Of two sites with the same graph one may be ahead of the other one by what its nodes want seen to.
If both run, the one that lags behind catches up node by node, and nothing else comes of the
difference. Where a node fails, it fails on both sides, and the rest of the difference stays.

* `Site.Lags` — one site lags behind another one.
* `Site.Agrees` — two steps come to the same, and whatever lagged behind has caught up some way.
* `Site.Lags.perform`, `Site.Lags.execute` — a node, and a run.
-/

namespace Offload

open Step Offload.Graph

namespace Site

/-- The graphs of `s` and `t` are the same but for their slots, and `t` is ahead of `s` by the
preparations `ps`, which are some of `qs`. The slots for which `D` holds have device memory. -/
structure Lags (R : Workspace → Workspace → Prop) (qs ps : List Preparation) (D : SlotId → Prop)
    (s t : Site) : Prop where
  /-- the graphs are the same -/
  graph : OnlySlots s t
  /-- the one is ahead of the other one -/
  ahead : Workspace.Ahead R ps s.workspace t.workspace
  /-- what is to be seen to -/
  pending : ∀ p ∈ ps, p ∈ qs
  /-- the slots have device memory -/
  roomy : ∀ slot, D slot → Preparation.Done s.workspace (.room slot)

/-- Two outcomes are the same. After a success, one site lags behind the other one by `ps`, and
after a failure by some of `qs`. -/
def Agrees {α : Type} (R : Workspace → Workspace → Prop) (qs ps : List Preparation)
    (D : SlotId → Prop) (x y : Except GraphError α × Site) : Prop :=
  Matches (fun a b s t => a = b ∧ Lags R qs ps D s t)
    (fun e e' s t => e = e' ∧ ∃ ps, Lags R qs ps (fun _ => False) s t) x y

variable {R : Workspace → Workspace → Prop} {qs ps : List Preparation} {D D' : SlotId → Prop}
  {s t : Site} {α β : Type} {slots : List SlotId} {slot : SlotId}

theorem mem_slots_cons (D : SlotId → Prop) (slot : SlotId) (r : List SlotId) (x : SlotId)
    (hx : D x ∨ x ∈ slot :: r) : (D x ∨ x = slot) ∨ x ∈ r := by
  simpa [or_assoc] using hx

theorem Lags.mono (h : Lags R qs ps D s t) (hD : ∀ slot, D' slot → D slot) : Lags R qs ps D' s t :=
  ⟨h.graph, h.ahead, h.pending, fun slot hs => h.roomy slot (hD slot hs)⟩

namespace Agrees

theorem ok (a : α) (h : Lags R qs ps D s t) : Agrees R qs ps D (.ok a, s) (.ok a, t) :=
  Matches.ok ⟨rfl, h⟩

theorem error (e : GraphError) (h : Lags R qs ps D s t) {ps' : List Preparation} :
    Agrees (α := α) R qs ps' D' (.error e, s) (.error e, t) :=
  Matches.error ⟨rfl, ps, h.mono nofun⟩

/-- Two steps in a row on either side. -/
theorem bind {m n : Step GraphError Site α} {f g : α → Step GraphError Site β}
    {ps' : List Preparation} (h : Agrees R qs ps D (m s) (n t))
    (hf : ∀ a s' t', Lags R qs ps D s' t' → Agrees R qs ps' D' (f a s') (g a t')) :
    Agrees R qs ps' D' ((m >>= f) s) ((n >>= g) t) := by
  rw [bind_apply, bind_apply]
  rcases hm : m s with ⟨r, s'⟩
  rcases hn : n t with ⟨r', t'⟩
  rw [hm, hn] at h
  cases h with
  | ok h =>
    obtain ⟨rfl, h⟩ := h
    exact hf _ s' t' h
  | error h => exact Matches.error h

/-- A look at the site on either side. -/
theorem get_bind {f g : Site → Step GraphError Site α} (h : Agrees R qs ps D (f s s) (g t t)) :
    Agrees R qs ps D (((get : Step GraphError Site Site) >>= f) s)
      (((get : Step GraphError Site Site) >>= g) t) := h

theorem mono {x y : Except GraphError α × Site} (h : Agrees R qs ps D x y)
    (hD : ∀ slot, D' slot → D slot) : Agrees R qs ps D' x y :=
  Matches.mono h (fun _ _ _ _ h => ⟨h.1, h.2.mono hD⟩) fun _ _ _ _ h => h

end Agrees

namespace Lags

/-! ### Steps -/

/-- The slots are all that the device works on. -/
theorem setWorkspace {w v : Workspace} (h : Lags R qs ps D s t)
    (hw : s.workspace.Retains w) (hahead : Workspace.Ahead R ps w v) :
    Lags R qs ps D (s.setWorkspace w) (t.setWorkspace v) where
  graph := by
    have hs : OnlySlots (s.setWorkspace w) s := rfl
    have ht : OnlySlots t (t.setWorkspace v) := rfl
    exact (hs.trans h.graph).trans ht
  ahead := hahead
  pending := h.pending
  roomy slot hs := hw _ (h.roomy slot hs)

/-- What the slots have memory for is done on both sides alike. -/
theorem inNode {m : Step DeviceError Workspace α} (h : Lags R qs ps D s t)
    (hw : s.workspace.Retains (m s.workspace).2)
    (hm : Agree (Workspace.Ahead R ps) (m s.workspace) (m t.workspace)) (node : String)
    (stage : Stage) : Agrees R qs ps D (inNode node stage m s) (inNode node stage m t) := by
  rw [inNode_apply, inNode_apply]
  rcases hs : m s.workspace with ⟨r, w⟩
  rcases ht : m t.workspace with ⟨r', v⟩
  rw [hs] at hw
  rw [hs, ht] at hm
  cases hm with
  | ok hm =>
    obtain ⟨rfl, hahead⟩ := hm
    exact .ok _ (h.setWorkspace hw hahead)
  | error hm =>
    obtain ⟨rfl, hahead⟩ := hm
    exact .error _ (h.setWorkspace hw hahead)

/-- What is next to be seen to is seen to on the one side. -/
theorem catchUp {p : Preparation} (h : Lags R qs (p :: ps) D s t) :
    ∃ w, p.prepare s.workspace = (.ok (), w) ∧ Preparation.Done w p ∧
      Lags R qs ps D (s.setWorkspace w) t := by
  obtain ⟨w, hafter, hahead⟩ := h.ahead
  have hretains : s.workspace.Retains w := fun q => (Preparation.veil_after p).done hafter
  refine ⟨w, hafter.prepare_eq, hafter.done, ?_, hahead, ?_,
    fun slot hs => hretains _ (h.roomy slot hs)⟩
  · have hs : OnlySlots (s.setWorkspace w) s := rfl
    exact hs.trans h.graph
  · exact fun q hq => h.pending q (List.mem_cons_of_mem _ hq)

variable (hR : Workspace.Veil R)

include hR

/-- A slot gets device memory on the one side, which it has on the other one. -/
theorem room (h : Lags R qs (.room slot :: ps) D s t) (node : String) (stage : Stage) : ∃ b s₁,
    Graph.inNode node stage (Workspace.ensureAllocated slot) s = (.ok b, s₁) ∧
    Graph.inNode node stage (Workspace.ensureAllocated slot) t = (.ok false, t) ∧
    Lags R qs ps (fun x => D x ∨ x = slot) s₁ t := by
  obtain ⟨w, hprepare, hdone, h₁⟩ := h.catchUp
  obtain ⟨b, w', hroom, hw⟩ := bind_eq_ok hprepare
  obtain rfl : w' = w := congrArg Prod.snd hw
  obtain ⟨id, hid⟩ := (Workspace.veil_ahead hR ps).done h₁.ahead hdone
  refine ⟨b, s.setWorkspace w', ?_, ?_, h₁.graph, h₁.ahead, h₁.pending, ?_⟩
  · rw [inNode_apply, hroom]
    rfl
  · rw [inNode_apply, Workspace.ensureAllocated_of_block? hid]
    rfl
  · rintro x (hx | rfl)
    · exact h₁.roomy x hx
    · exact hdone

/-- A kernel is compiled on the one side, which it was on the other one. -/
theorem program {k : Kernel} (h : Lags R qs (.program k :: ps) D s t) (node : String)
    (stage : Stage) : ∃ p s₁,
    Graph.inNode node stage (Workspace.onContext (Context.compile k)) s = (.ok p, s₁) ∧
    Graph.inNode node stage (Workspace.onContext (Context.compile k)) t = (.ok p, t) ∧
    Lags R qs ps D s₁ t := by
  obtain ⟨w, hprepare, -, h₁⟩ := h.catchUp
  obtain ⟨p, w', hcompile, hw⟩ := bind_eq_ok hprepare
  obtain rfl : w' = w := congrArg Prod.snd hw
  have hfound := (Workspace.veil_ahead hR ps).program _ _ _ _ h₁.ahead
    (Workspace.program?_of_compile hcompile)
  have hkey : t.workspace.key k = w'.key k := by
    rw [Workspace.key, (Workspace.veil_ahead hR ps).target _ _ h₁.ahead]
    rfl
  refine ⟨p, s.setWorkspace w', ?_, ?_, h₁⟩
  · rw [inNode_apply, hcompile]
    rfl
  · rw [inNode_apply, Workspace.compile_of_program? (hkey ▸ hfound)]
    rfl

/-- All slots get device memory on the one side. -/
theorem makeRoom (h : Lags R qs (slots.map .room ++ ps) D s t) (node : String) (stage : Stage) :
    Agrees R qs ps (fun x => D x ∨ x ∈ slots)
      ((Step.each slots fun slot => do
        let _ ← Graph.inNode node stage (Workspace.ensureAllocated slot)) s)
      ((Step.each slots fun slot => do
        let _ ← Graph.inNode node stage (Workspace.ensureAllocated slot)) t) := by
  induction slots generalizing D s t with
  | nil => exact .ok () (h.mono fun x hx => hx.resolve_right nofun)
  | cons slot r ih =>
    obtain ⟨b, s₁, hs, ht, h₁⟩ := h.room hR node stage
    have hfirst : Agrees R qs (r.map .room ++ ps) (fun x => D x ∨ x = slot)
        ((do let _ ← Graph.inNode node stage (Workspace.ensureAllocated slot) :
          Step GraphError Site Unit) s)
        ((do let _ ← Graph.inNode node stage (Workspace.ensureAllocated slot) :
          Step GraphError Site Unit) t) := by
      rw [bind_of_ok hs, bind_of_ok ht]
      exact .ok () h₁
    exact hfirst.bind fun _ s₂ t₂ h₂ => (ih h₂).mono (mem_slots_cons D slot r)

/-- A copy to the device of a slot that has device memory. -/
theorem upload (h : Lags R qs ps D s t) (hs : D slot) (node : String) (stage : Stage) :
    Agrees R qs ps D (Graph.inNode node stage (Workspace.upload slot) s)
      (Graph.inNode node stage (Workspace.upload slot) t) := by
  obtain ⟨id, hid⟩ := h.roomy slot hs
  exact h.inNode (.upload slot _) ((Workspace.veil_ahead hR ps).agree_upload h.ahead hid) node stage

/-- A copy to the host of a slot that has device memory. -/
theorem download (h : Lags R qs ps D s t) (hs : D slot) (node : String) (stage : Stage) :
    Agrees R qs ps D (Graph.inNode node stage (Workspace.download slot) s)
      (Graph.inNode node stage (Workspace.download slot) t) := by
  obtain ⟨id, hid⟩ := h.roomy slot hs
  exact h.inNode (.download slot _) ((Workspace.veil_ahead hR ps).agree_download h.ahead hid) node
    stage

theorem host (h : Lags R qs ps D s t) (hs : D slot) :
    t.workspace.host slot = s.workspace.host slot := by
  obtain ⟨id, hid⟩ := h.roomy slot hs
  exact (Workspace.veil_ahead hR ps).host h.ahead hid

theorem isStale (h : Lags R qs ps D s t) (hs : D slot) :
    t.workspace.isStale slot = s.workspace.isStale slot := by
  obtain ⟨id, hid⟩ := h.roomy slot hs
  exact (Workspace.veil_ahead hR ps).isStale h.ahead hid

/-! ### Nodes -/

theorem transferIn (h : Lags R qs (slots.map .room ++ ps) D s t) (node : String) (always : Bool) :
    Agrees R qs ps (fun x => D x ∨ x ∈ slots) (Graph.transferIn node always slots s)
      (Graph.transferIn node always slots t) := by
  induction slots generalizing D s t with
  | nil => exact .ok 0 (h.mono fun x hx => hx.resolve_right nofun)
  | cons slot r ih =>
    obtain ⟨b, s₁, hs, ht, h₁⟩ := h.room hR node .transfer
    rw [Graph.transferIn, bind_of_ok hs, bind_of_ok ht]
    refine .get_bind ?_
    rw [h₁.isStale hR (.inr rfl)]
    split
    · refine (h₁.upload hR (.inr rfl) node .transfer).bind fun _ s₂ t₂ h₂ => ?_
      rw [bytesIn_bind, bytesIn_bind, h₂.host hR (.inr rfl)]
      exact (ih h₂).bind fun n s₃ t₃ h₃ => .ok _ (h₃.mono (mem_slots_cons D slot r))
    · exact (ih h₁).mono (mem_slots_cons D slot r)

theorem transferOut (h : Lags R qs ps D s t) (hslots : ∀ slot ∈ slots, D slot) (node : String) :
    Agrees R qs ps D (Graph.transferOut node slots s) (Graph.transferOut node slots t) := by
  induction slots generalizing s t with
  | nil => exact .ok 0 h
  | cons slot r ih =>
    obtain ⟨hslot, hr⟩ := List.forall_mem_cons.mp hslots
    rw [Graph.transferOut]
    refine (h.download hR hslot node .transfer).bind fun _ s₁ t₁ h₁ => ?_
    rw [bytesIn_bind, bytesIn_bind, h₁.host hR hslot]
    exact (ih h₁ hr).bind fun n s₂ t₂ h₂ => .ok _ h₂

theorem wait (h : Lags R qs ps D s t) (node : String) :
    Agrees R qs ps D (Graph.inNode node .launch (Workspace.onDevice Device.synchronize) s)
      (Graph.inNode node .launch (Workspace.onDevice Device.synchronize) t) :=
  h.inNode (.onDevice (Device.synchronize_changes (fun _ => False) _))
    (Workspace.Veil.agree_onDevice
      (((Workspace.veil_ahead hR ps).device s.workspace t.workspace).agree_synchronize h.ahead))
    node .launch

theorem launch {k : Kernel} {args : List TaskArg}
    (h : Lags R qs ((Action.task k args).preparations ++ ps) D s t) (node : String) :
    Agrees R qs ps (fun x => D x ∨ x ∈ (Action.task k args).slots) (Graph.launch node k args s)
      (Graph.launch node k args t) := by
  rw [Action.preparations, List.append_assoc] at h
  refine (h.makeRoom hR node .launch).bind fun _ s₁ t₁ h₁ => ?_
  obtain ⟨p, s₂, hs, ht, h₂⟩ := h₁.program hR node .launch
  rw [bind_of_ok hs, bind_of_ok ht]
  refine .get_bind ?_
  have hahead := h₂.ahead
  have hveil := Workspace.veil_ahead hR ps
  -- the slots of the task have device memory by now, so the kernel is given the same
  have hgiven : args.mapM (launchArg t₁.graph.table) = args.mapM (launchArg s₂.graph.table) := by
    refine mapM_congr fun arg harg => ?_
    cases arg with
    | scalar v => rfl
    | slot x =>
      obtain ⟨i, hi⟩ := List.mem_iff_getElem?.mp harg
      obtain ⟨id, hid⟩ := h₂.roomy x (.inr (Action.mem_slots_task.mpr ⟨i, hi⟩))
      have hget : t₁.graph.table.get x = s₂.graph.table.get x := hveil.slot _ _ x id hahead hid
      rw [launchArg, launchArg, SlotTable.launchArg, SlotTable.launchArg, hget]
  rw [hgiven]
  rcases hg : args.mapM (launchArg s₂.graph.table) with e | given
  · exact .error _ h₂
  · have howns : ∀ arg ∈ given, ∀ id, arg.block = some id → s₂.workspace.Owns id := by
      intro arg harg id hid
      obtain ⟨i, hi⟩ := List.mem_iff_getElem?.mp harg
      obtain ⟨x, -, hx⟩ := slot_of_given hg hi hid
      exact ⟨x, hx⟩
    have hlaunch := (hveil.device s₂.workspace t₁.workspace).agree_launch hahead p.kernel howns
    exact (h₂.inNode (.onDevice (Device.launch_changes _ _ _))
      (Workspace.Veil.agree_onDevice hlaunch) node .launch).bind fun _ s₃ t₃ h₃ => .ok () h₃

/-- A node that finds memory for what it needs comes to the same on both sides. -/
theorem perform {a : Action} (h : Lags R qs (a.preparations ++ ps) D s t)
    (hneeds : ∀ slot, a.Needs slot → D slot) (node : String) :
    Agrees R qs ps (fun x => D x ∨ x ∈ a.slots) (Graph.perform node a s)
      (Graph.perform node a t) := by
  cases a with
  | streamIn slots =>
    rw [Action.preparations, List.append_assoc] at h
    exact h.transferIn hR node true
  | copyIn slots =>
    rw [Action.preparations, List.append_assoc] at h
    exact h.transferIn hR node false
  | task k args => exact (h.launch hR node).bind fun _ s₁ t₁ h₁ => .ok 0 h₁
  | streamOut slots =>
    -- there is nothing left to be seen to
    have hsettled : Workspace.Ahead R ps s.workspace t.workspace := by
      refine h.ahead.settle fun p hp => ?_
      simp [Action.preparations, Action.kernels, Action.slots] at hp
      obtain ⟨slot, hslot, rfl⟩ := hp
      exact h.roomy slot (hneeds slot hslot)
    have h₁ : Lags R qs ps D s t :=
      ⟨h.graph, hsettled, fun p hp => h.pending p (List.mem_append_right _ hp), h.roomy⟩
    exact (h₁.transferOut hR hneeds node).mono fun x hx => hx.elim id (hneeds x)
  | barrier =>
    exact ((Lags.wait hR h node).bind fun _ s₁ t₁ h₁ => .ok 0 h₁).mono fun x hx =>
      hx.resolve_right List.not_mem_nil

/-! ### Runs -/

omit hR in
/-- What a node leaves in the profile is the same on both sides. -/
theorem withGraph {f : Graph → Graph} (h : Lags R qs ps D s t)
    (hf : ∀ (g : Graph) (x : SlotTable), f { g with table := x } = { f g with table := x }) :
    Lags R qs ps D (s.withGraph f) (t.withGraph f) := by
  have htable : ∀ g, (f g).table = g.table := fun g => by
    have hsame := congrArg Graph.table (hf g g.table)
    exact hsame
  have hs : (s.withGraph f).workspace = s.workspace := workspace_withGraph (htable _)
  have ht : (t.withGraph f).workspace = t.workspace := workspace_withGraph (htable _)
  refine ⟨?_, ?_, h.pending, ?_⟩
  · have hgraph := h.graph
    rw [OnlySlots] at hgraph ⊢
    rw [Site.withGraph, Site.withGraph, htable, hgraph, hf]
  · rw [hs, ht]
    exact h.ahead
  · rw [hs]
    exact h.roomy

theorem runNode {n : Node} (h : Lags R qs (n.action.preparations ++ ps) D s t)
    (hneeds : ∀ slot, n.action.Needs slot → D slot) (run : Nat) :
    Agrees R qs ps (fun x => D x ∨ x ∈ n.action.slots) (Graph.runNode run n s)
      (Graph.runNode run n t) := by
  have hname : t.graph.qualified n.name = s.graph.qualified n.name := by
    rw [qualified, qualified, h.graph.name]
  rw [runNode_apply, runNode_apply, hname]
  exact (h.perform hR hneeds _).bind fun bytes s₁ t₁ h₁ =>
    .ok () (h₁.withGraph (f := completed _ n run bytes) fun _ _ => rfl)

/-- Nodes in order, each of which finds memory for what it needs. -/
theorem each {ns : List Node} (h : Lags R qs (ns.flatMap (·.action.preparations) ++ ps) D s t)
    (hord : Ordered D ns) (run : Nat) :
    Agrees R qs ps D (Step.each ns (Graph.runNode run) s) (Step.each ns (Graph.runNode run) t) := by
  -- `D` grows by the slots of each node, and `hord` says that this is enough for the next
  induction ns generalizing D s t with
  | nil => exact .ok () h
  | cons n r ih =>
    rw [List.flatMap_cons, List.append_assoc] at h
    exact (h.runNode hR hord.1 run).bind fun _ s₁ t₁ h₁ => (ih h₁ hord.2).mono fun _ => .inl

theorem runAll (h : Lags R qs (s.graph.preparations ++ ps) (fun _ => False) s t)
    (hs : s.graph.Built) (run : Nat) :
    Agrees R qs ps (fun _ => False) (Graph.runAll run s) (Graph.runAll run t) := by
  have hgraph := h.graph
  rw [OnlySlots] at hgraph
  rw [runAll_apply, runAll_apply, hgraph]
  exact (h.each hR hs.ordered run).bind fun _ s₁ t₁ h₁ => h₁.wait hR _

/-- A run comes to the same on both sides. If it succeeds, nobody lags behind any more. -/
theorem execute (h : Lags R qs s.graph.preparations (fun _ => False) s.begun t.begun)
    (hs : s.graph.Built) (hlive : s.graph.phase ≠ .disposed) (hlive' : t.graph.phase ≠ .disposed) :
    Agrees R qs [] (fun _ => False) (Graph.execute s) (Graph.execute t) := by
  have hruns : t.graph.runs = s.graph.runs := h.graph.runs
  have hbegun : Lags R qs (s.begun.graph.preparations ++ []) (fun _ => False) s.begun t.begun := by
    rw [List.append_nil]
    exact h
  have hall := hbegun.runAll hR (hs.of_nodes rfl fun _ => Iff.rfl) (s.graph.runs + 1)
  rw [execute_apply, execute_apply, if_neg hlive, if_neg hlive', hruns]
  rw [begun, begun] at hall
  rcases hl : Graph.runAll (s.graph.runs + 1) (s.withGraph ({ · with phase := .executing }))
    with ⟨r, s₁⟩
  rcases hr : Graph.runAll (s.graph.runs + 1) (t.withGraph ({ · with phase := .executing }))
    with ⟨r', t₁⟩
  rw [hl, hr] at hall
  cases hall with
  | ok hall => exact .ok _ (hall.2.withGraph fun _ _ => rfl)
  | error hall =>
    obtain ⟨rfl, ps', h₁⟩ := hall
    exact .error _ (h₁.withGraph fun _ _ => rfl)

end Lags

end Site

end Offload
