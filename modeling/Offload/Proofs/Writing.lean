import Offload.Proofs.Stopping
import Offload.Proofs.Ownership

/-!
# Host buffers that a graph writes

A graph names slots, and the buffers in slots are exchanged over its life. Whatever is asked of it,
it writes the buffers that are in the right slots when their time comes: those that a run copies to
the host, and those that are to be copied at once.

* `Workspace.Opens` — the buffers in a list of slots were opened for writing, and no others.
* `Graph.opens_perform` — a node opens the buffers that it copies to the host.
* `Site.Completes.opens` — a run has opened the buffers of the nodes that it has completed.
* `Site.Fetches` — a buffer is copied to the host when it is in a slot for which this was asked;
  `Command.hosts_run` says that nothing else changes a buffer.
* `Fleet.writes_only_fetched` — what a graph may do to the buffers of a fleet.
-/

namespace Offload

open Step

/-! ### Slots whose buffers are opened -/

namespace Workspace

variable {w w' w'' : Workspace} {ss ts : List SlotId} {s : SlotId} {x : HostId}

/-- A copy to the host leaves every buffer in its slot. -/
theorem byHost_download (s : SlotId) (w : Workspace) :
    (download s w).2.table.byHost = w.table.byHost := by
  have hK : Serviced (fun w w' : Workspace => w'.table.byHost = w.table.byHost) s :=
    ⟨fun _ _ _ h h' => h'.trans h, fun _ _ _ => rfl, fun _ _ => rfl⟩
  exact hK.download (fun _ => rfl) (fun _ _ => rfl) w

/-- The buffers in the slots of a list were opened for writing, each as often as its slot is in the
list. Slots have the same buffers. -/
structure Opens (ss : List SlotId) (w w' : Workspace) : Prop where
  /-- buffers have the same slots -/
  byHost : w'.table.byHost = w.table.byHost
  /-- versions are counted on -/
  version : ∀ x, (w'.hosts.get x).version =
    (w.hosts.get x).version + ss.countP (w.table.slotOf? x = some ·)
  /-- all other buffers are the same -/
  same : ∀ x, (∀ s ∈ ss, w.table.slotOf? x ≠ some s) → w'.hosts.get x = w.hosts.get x

namespace Opens

theorem slotOf? (h : Opens ss w w') (x : HostId) : w'.table.slotOf? x = w.table.slotOf? x := by
  rw [SlotTable.slotOf?, h.byHost]
  rfl

/-- Nothing was written. -/
theorem of_hosts (hb : w'.table.byHost = w.table.byHost) (hh : w'.hosts = w.hosts) :
    Opens [] w w' :=
  ⟨hb, fun x => congrArg (fun m => (HostMemory.get m x).version) hh,
    fun x _ => congrArg (HostMemory.get · x) hh⟩

theorem refl (w : Workspace) : Opens [] w w := of_hosts rfl rfl

/-- Where no slot is listed, no buffer is written. -/
theorem get_hosts (h : Opens [] w w') (x : HostId) : w'.hosts.get x = w.hosts.get x :=
  h.same x fun _ hs => absurd hs List.not_mem_nil

theorem trans (h : Opens ss w w') (h' : Opens ts w' w'') : Opens (ss ++ ts) w w'' where
  byHost := h'.byHost.trans h.byHost
  version x := by
    rw [h'.version, h.version, List.countP_append, Nat.add_assoc]
    simp only [h.slotOf?]
  same x hx := by
    refine (h'.same x fun s hs => ?_).trans (h.same x fun s hs => hx s (List.mem_append_left _ hs))
    rw [h.slotOf?]
    exact hx s (List.mem_append_right _ hs)

/-! ### Single steps -/

theorem ensureAllocated (s : SlotId) (w : Workspace) : Opens [] w (ensureAllocated s w).2 := by
  rw [ensureAllocated_apply]
  split
  · exact refl w
  · split <;> exact of_hosts rfl rfl

theorem upload (s : SlotId) (w : Workspace) : Opens [] w (upload s w).2 := by
  have hK : Serviced (Opens []) s :=
    ⟨fun _ _ _ => trans, fun _ _ _ => of_hosts rfl rfl, fun _ _ => of_hosts rfl rfl⟩
  exact hK.upload (ensureAllocated s w)

/-- A copy to the host opens the buffer in the slot. -/
theorem download (hw : w.Sound) (h : Workspace.download s w = (.ok (), w')) : Opens [s] w w' := by
  obtain ⟨-, ⟨-, b, hbytes, -, hhosts⟩ | ⟨⟨_, hr⟩, -⟩ | ⟨hr, -⟩⟩ := download_inv hw h
  case inr.inl => cases hr
  case inr.inr => cases hr
  have hs := has_of_deviceBytes hbytes
  have hslot := hw.table.slotOf?_host hs
  have hb : w'.table.byHost = w.table.byHost := by
    rw [← byHost_download s w, h]
  -- the buffer in the slot, and all others
  have hself : w'.hosts.get (w.table.get s).host = (w.host s).touch.patch 0 b.toList := by
    rw [hhosts]
    exact HostMemory.get_set_self _ (hw.bound s hs)
  have hother : ∀ x, w.table.slotOf? x ≠ some s → w'.hosts.get x = w.hosts.get x := by
    intro x hx
    rw [hhosts]
    exact HostMemory.get_set_ne _ _ fun he => hx (he ▸ hslot)
  refine ⟨hb, fun x => ?_, fun x hx => hother x (hx s List.mem_cons_self)⟩
  by_cases hx : w.table.slotOf? x = some s
  · obtain rfl := hw.table.host_of_slotOf? hx
    rw [hself, List.countP_singleton, if_pos (decide_eq_true hslot)]
    rfl
  · rw [hother x hx, List.countP_singleton, if_neg (by simpa using hx)]
    rfl

end Opens

end Workspace

/-! ### Nodes -/

/-- The slots whose buffers a node copies to the host. -/
def Action.fetched : Action → List SlotId
  | .streamOut slots => slots
  | _ => []

theorem Action.fetches_iff {a : Action} {slot : SlotId} : a.Fetches slot ↔ slot ∈ a.fetched := by
  cases a <;> simp [Fetches, fetched]

namespace Site

/-- Nothing is written apart from copies to the host. -/
theorem admits_opens :
    Admits (fun s s' => Workspace.Opens [] s.workspace s'.workspace) (fun _ => True)
      fun _ => False where
  refl s := .refl s.workspace
  trans _ _ _ h h' := h.trans h'
  ensureAllocated slot _ s := .ensureAllocated slot s.workspace
  upload slot _ s := .upload slot s.workspace
  download _ h := h.elim
  wait _ := .of_hosts rfl rfl

/-- Compiling writes no host buffers. -/
theorem opens_compile (k : Kernel) (s : Site) : Workspace.Opens [] s.workspace
    (onWorkspace (Workspace.onContext (Context.compile k)) s).2.workspace := .of_hosts rfl rfl

end Site

namespace Graph

variable {κ : KernelId → Kernel} {s s' : Site} {node : String} {n : Nat}

theorem opens_transferOut {slots : List SlotId} (hs : s.workspace.Sound)
    (h : transferOut node slots s = (.ok n, s')) :
    Workspace.Opens slots s.workspace s'.workspace := by
  induction slots generalizing s n with
  | nil =>
    cases h
    exact .refl _
  | cons slot r ih =>
    obtain ⟨u, t, hcopy, hrest⟩ := bind_eq_ok h
    have hdownload := of_inNode hcopy
    obtain ⟨m, t', hbytes, hrest⟩ := bind_eq_ok hrest
    cases hbytes
    obtain ⟨l, t', hrest, hend⟩ := bind_eq_ok hrest
    cases hend
    have ht : t.workspace.Sound := (Workspace.download_inv hs hdownload).1.sound
    exact (Workspace.Opens.download hs hdownload).trans (ih ht hrest)

/-- A node that is completed has opened the buffers that it copies to the host, and no others. -/
theorem opens_perform {a : Action} (hs : s.workspace.Sound)
    (h : perform node a s = (.ok n, s')) :
    Workspace.Opens a.fetched s.workspace s'.workspace := by
  by_cases ha : ∃ slots, a = .streamOut slots
  · obtain ⟨slots, rfl⟩ := ha
    exact opens_transferOut hs h
  · have hfetched : a.fetched = [] := by
      cases a with
      | streamOut slots => exact absurd ⟨slots, rfl⟩ ha
      | _ => rfl
    have hall := Site.admits_opens.perform (a := a) (fun _ _ => trivial)
      (fun slots hslots => absurd ⟨slots, hslots⟩ ha) node fun k args _ =>
        Site.admits_opens.launch (fun _ _ => trivial) node (Site.opens_compile k)
          fun s p given _ => .of_hosts rfl rfl
    have hend := hall s
    rw [h] at hend
    rw [hfetched]
    exact hend

/-- A node that is completed was carried out and recorded. -/
theorem runNode_ok {run : Nat} {x : Node} (h : runNode run x s = (.ok (), s')) :
    ∃ bytes t, perform (s.graph.qualified x.name) x.action s = (.ok bytes, t) ∧
      s'.workspace = t.workspace := by
  rw [runNode_apply] at h
  obtain ⟨bytes, t, hp, ht⟩ := bind_eq_ok h
  cases ht
  exact ⟨bytes, t, hp, rfl⟩

end Graph

/-! ### Runs -/

/-- The slots whose buffers the nodes copy to the host, in order. -/
def Graph.fetched (g : Graph) : List SlotId := g.nodes.flatMap (·.action.fetched)

/-- How often the slot that a buffer is in is copied to the host in a run. -/
def Graph.copiesOf (g : Graph) (x : HostId) : Nat :=
  match g.table.slotOf? x with
  | some slot => g.fetched.count slot
  | none => 0

namespace Site.Completes

open Offload.Graph

variable {κ : KernelId → Kernel} {s m : Site} {j k : Nat}

/-- A run that has come to a node has come to all nodes before it. -/
theorem of_le (h : s.Completes k m) (hj : j ≤ k) : ∃ m', s.Completes j m' := by
  have hsplit : s.graph.nodes.take k =
      s.graph.nodes.take j ++ (s.graph.nodes.take k).drop j := by
    have htake := List.take_append_drop j (s.graph.nodes.take k)
    rw [List.take_take, Nat.min_eq_left hj] at htake
    exact htake.symm
  have hall := h.each
  rw [hsplit, each_append] at hall
  obtain ⟨u, m', hfirst, -⟩ := bind_eq_ok hall
  exact ⟨m', .of_each hfirst⟩

/-- The last of the nodes that were completed was completed after the others. -/
theorem succ_inv (h : s.Completes (k + 1) m) :
    (s.graph.nodes[k]? = none ∧ s.Completes k m) ∨ ∃ n t, s.graph.nodes[k]? = some n ∧
      s.Completes k t ∧ runNode (s.graph.runs + 1) n t = (.ok (), m) := by
  have hall := h.each
  rw [List.take_add_one] at hall
  rcases hn : s.graph.nodes[k]? with _ | n <;> rw [hn] at hall
  · rw [Option.toList_none, List.append_nil] at hall
    exact .inl ⟨rfl, .of_each hall⟩
  · rw [Option.toList_some, each_append] at hall
    obtain ⟨u, t, hbefore, hlast⟩ := bind_eq_ok hall
    obtain ⟨u, t', hlast, hend⟩ := bind_eq_ok hlast
    cases hend
    exact .inr ⟨n, t, rfl, .of_each hbefore, hlast⟩

/-- A run has opened the buffers that the nodes copy to the host that it has completed, and no
others. -/
theorem opens (h : s.Completes k m) (hs : s.Sound κ) :
    Workspace.Opens ((s.graph.nodes.take k).flatMap (·.action.fetched)) s.workspace
      m.workspace := by
  induction k generalizing m with
  | zero =>
    have hend := h.each
    cases hend
    exact .of_hosts rfl rfl
  | succ k ih =>
    rw [List.take_add_one]
    rcases h.succ_inv with ⟨hn, hsame⟩ | ⟨n, t, hn, hbefore, hlast⟩
    · rw [hn, Option.toList_none, List.append_nil]
      exact ih hsame
    · obtain ⟨bytes, t', hperform, hend⟩ := runNode_ok hlast
      have ht := ((hbefore.progress hs).sound hs).workspace
      rw [hn, Option.toList_some, List.flatMap_append, List.flatMap_singleton, hend]
      exact (ih hbefore).trans (opens_perform ht hperform)

/-- Where a buffer is copied to the host on the way to some node, a run comes to a node that does
so. -/
theorem exists_fetches {x : HostId} {slot : SlotId} (h : s.Completes k m) (hs : s.Sound κ)
    (hslot : slot ∈ (s.graph.nodes.take k).flatMap (·.action.fetched))
    (hx : s.graph.table.slotOf? x = some slot) :
    ∃ j t n, s.Completes j t ∧ s.graph.nodes[j]? = some n ∧ n.action.Fetches slot ∧
      t.graph.table.slotOf? x = some slot := by
  obtain ⟨n, hn, hslot⟩ := List.mem_flatMap.mp hslot
  obtain ⟨j, hj⟩ := List.mem_iff_getElem?.mp hn
  rw [List.getElem?_take] at hj
  split at hj
  · rename_i hlt
    obtain ⟨t, ht⟩ := h.of_le (Nat.le_of_lt hlt)
    exact ⟨j, t, n, ht, hj, Action.fetches_iff.mpr hslot, ((ht.opens hs).slotOf? x).trans hx⟩
  · cases hj

end Site.Completes

/-! ### Calls -/

/-- A call on `s` copies a buffer to the host. -/
inductive Site.Fetches (s : Site) (x : HostId) : Command → Prop where
  /-- a run has come to a node that copies the slot to the host that the buffer is in -/
  | execute {k : Nat} {m : Site} {n : Node} {slot : SlotId} (hlive : s.graph.phase ≠ .disposed)
    (hm : s.Completes k m) (hn : s.graph.nodes[k]? = some n) (hslot : n.action.Fetches slot)
    (hx : m.graph.table.slotOf? x = some slot) : Fetches s x .execute
  /-- the buffer has a slot, and is to be copied now -/
  | synchronize {buffers : List HostId} {slot : SlotId} (hx : x ∈ buffers)
    (hslot : s.graph.table.slotOf? x = some slot) : Fetches s x (.synchronize buffers)

/-- A buffer without a slot is not copied to the host. -/
theorem Site.not_fetches {κ : KernelId → Kernel} {s : Site} {x : HostId} {c : Command}
    (hs : s.Sound κ) (hx : s.graph.table.slotOf? x = none) : ¬ s.Fetches x c := by
  rintro (⟨-, hm, -, -, hslot⟩ | ⟨-, hslot⟩)
  · have hsame : _ = s.graph.table.slotOf? x := (hm.opens hs).slotOf? x
    rw [hx] at hsame
    cases hsame.symm.trans hslot
  · cases hx.symm.trans hslot

namespace Graph

variable {κ : KernelId → Kernel} {s s' : Site} {n : Nat} {x : HostId}

/-- A run writes the buffers that it copies to the host, however it ends. -/
theorem hosts_execute (hs : s.Sound κ) (hx : ¬ s.Fetches x .execute) :
    (execute s).2.machine.hosts.get x = s.machine.hosts.get x := by
  by_cases hlive : s.graph.phase = .disposed
  · rw [execute_apply, if_pos hlive]
  -- up to any node
  have hbefore : ∀ k m, s.Completes k m → m.machine.hosts.get x = s.machine.hosts.get x := by
    intro k m hm
    refine (hm.opens hs).same x fun slot hslot hsome => hx ?_
    obtain ⟨j, t, n, ht, hn, hfetches, hslot⟩ := hm.exists_fetches hs hslot hsome
    exact .execute hlive ht hn hfetches hslot
  rcases hrun : execute s with ⟨e | n, s'⟩
  · obtain ⟨k, T, N, m, hm, hstops, hconfined, -⟩ := execute_error_inv hs hlive hrun
    refine (hconfined.hosts x fun slot hN hhost => ?_).trans (hbefore k m hm)
    cases hstops with
    | wait => exact hN
    | node hn =>
      have hprogress := hm.progress hs
      have hsound := hprogress.sound hs
      have hhas : m.graph.table.Has slot := by
        refine (hsound.built.slots slot).mpr ⟨_, hprogress.nodes ▸ List.mem_of_getElem? hn, ?_⟩
        exact Action.mem_slots_of_fetches hN
      exact hx (.execute hlive hm hn hN (hhost ▸ hsound.workspace.table.slotOf?_host hhas))
  · obtain ⟨-, m, hm, -, hhosts⟩ := execute_ok_inv hlive hrun
    exact (congrArg (HostMemory.get · x) hhosts).trans (hbefore _ m hm)

/-- A warm-up writes no buffers. -/
theorem opens_warmup (s : Site) : Workspace.Opens [] s.workspace (warmup s).2.workspace := by
  refine Site.admits_opens.warmup (fun f hf s => ?_) (fun _ _ _ _ => trivial) fun n _ k _ _ =>
    Site.opens_compile k
  rw [Site.workspace_withGraph (hf.table s.graph)]
  exact .refl _

/-- Buffers that are to be copied to the host now are written, and no others. -/
theorem hosts_synchronize {bs : List HostId} (hs : s.Sound κ)
    (hx : ¬ s.Fetches x (.synchronize bs)) :
    (synchronize bs s).2.machine.hosts.get x = s.machine.hosts.get x := by
  -- the buffers that are named are in the slots that are copied
  have hadmits := Site.Confines.admits (κ := κ) (T := fun _ => True)
    (N := fun slot => ∃ y ∈ bs, s.graph.table.slotOf? y = some slot) fun _ _ => trivial
  have hconfines := hadmits.synchronize fun y (hy : y ∈ bs) slot
    (hslot : s.graph.table.slotOf? y = some slot) => ⟨y, hy, hslot⟩
  refine (hconfines.confined hs.workspace hs.programs).hosts x ?_
  rintro slot ⟨y, hy, hslot⟩ hhost
  have he : (s.graph.table.get slot).host = y := hs.workspace.table.host_of_slotOf? hslot
  obtain rfl := he.symm.trans hhost
  exact hx (.synchronize hy hslot)

/-- A run that succeeds opens a buffer once for each time that a node copies its slot to the
host. -/
theorem version_execute (hs : s.Sound κ) (hlive : s.graph.phase ≠ .disposed)
    (h : execute s = (.ok n, s')) (x : HostId) :
    (s'.machine.hosts.get x).version =
      (s.machine.hosts.get x).version + s.graph.copiesOf x := by
  obtain ⟨-, m, hm, -, hhosts⟩ := execute_ok_inv hlive h
  have hversion := (hm.opens hs).version x
  rw [List.take_length] at hversion
  rw [hhosts]
  refine hversion.trans (congrArg _ ?_)
  rw [copiesOf]
  rcases hslot : s.graph.table.slotOf? x with _ | slot
  · exact List.countP_eq_zero.mpr fun slot _ => by simp [Site.workspace, hslot]
  · refine List.countP_congr fun slot' _ => ?_
    rw [decide_eq_true_iff, beq_iff_eq, Site.workspace, hslot, Option.some.injEq]
    exact eq_comm

end Graph

/-! ### Which buffers have slots -/

/-- The buffers that a call makes slots for, or puts into a slot. -/
def Command.binds : Command → List HostId
  | streamIn bs | copyIn bs => bs
  | task _ _ args => Graph.argBuffers args
  | rebind _ new => [new]
  | streamOut _ | barrier | warmup | execute | synchronize _ | clearProfile | dispose => []

/-- Other buffers are in the same slots then, or in none. -/
theorem SlotTable.slotOf?_bindAll_of_not_mem {t : SlotTable} {hs : List HostId} {x : HostId}
    (hx : x ∉ hs) : (t.bindAll hs).2.slotOf? x = t.slotOf? x := by
  induction hs generalizing t with
  | nil => rfl
  | cons h r ih =>
    have hne := List.ne_of_not_mem_cons hx
    rw [bindAll_cons]
    refine (ih (List.not_mem_of_not_mem_cons hx)).trans ?_
    rcases hslot : t.slotOf? h with _ | s
    · rw [bind_of_none hslot]
      simp [SlotTable.slotOf?, Ne.symm hne]
    · rw [bind_of_some hslot]

/-- A call that adds nodes leaves buffers where they are that it does not make slots for. -/
theorem Site.Adds.slotOf?_of_not_mem {s : Site} {c : Command} {a : Action} {t : SlotTable}
    {x : HostId} (h : s.Adds c a t) (hx : x ∉ c.binds) :
    t.slotOf? x = s.graph.table.slotOf? x := by
  cases h with
  | streamIn bs => exact SlotTable.slotOf?_bindAll_of_not_mem hx
  | copyIn bs => exact SlotTable.slotOf?_bindAll_of_not_mem hx
  | task name node k args =>
    have hargs : x ∉ Graph.argBuffers args := hx
    rw [Graph.snd_bindArgs]
    exact SlotTable.slotOf?_bindAll_of_not_mem hargs
  | streamOut => rfl
  | barrier => rfl

/-- Whatever a graph does with its nodes, every buffer stays in its slot. -/
theorem Site.allows_byHost :
    Allows (fun s s' => s'.graph.table.byHost = s.graph.table.byHost) fun _ => True where
  refl _ := rfl
  trans _ _ _ h h' := h'.trans h
  graph _ hf s := congrArg SlotTable.byHost (hf.table s.graph)
  ensureAllocated slot _ s := (Workspace.Opens.ensureAllocated slot s.workspace).byHost
  upload slot _ s := (Workspace.Opens.upload slot s.workspace).byHost
  download slot _ s := Workspace.byHost_download slot s.workspace
  wait _ := rfl

/-- Memory is given up without a look at the host. -/
theorem Workspace.Opens.releaseAll (w : Workspace) : Opens [] w w.releaseAll := by
  have hrelease : ∀ (w : Workspace) (s : SlotId), Opens [] w (w.release s) := by
    intro w s
    refine .of_hosts ?_ (hosts_drop w _)
    rw [table_release]
    rfl
  have hall : ∀ (ns : List Nat) (w : Workspace),
      Opens [] w (ns.foldl (fun w i => w.release ⟨i⟩) w) := by
    intro ns
    induction ns with
    | nil => exact .refl
    | cons n ns ih => exact fun w => (hrelease w ⟨n⟩).trans (ih _)
  exact hall _ w

theorem Workspace.hosts_rebound (w : Workspace) (old new : HostId) (s : SlotId) :
    (w.rebound old new s).hosts = w.hosts := by
  rw [rebound]
  split
  · rfl
  · exact hosts_drop w _

theorem Workspace.slotOf?_rebound (w : Workspace) (old new x : HostId) (s : SlotId) :
    (w.rebound old new s).table.slotOf? x =
      if x = new then some s else if x = old then none else w.table.slotOf? x := by
  rw [rebound]
  split <;> exact SlotTable.slotOf?_replace _ _ _ _ _ _

namespace Command

variable {κ : KernelId → Kernel} {s : Site} {x : HostId} {c : Command}

/-- Whatever is asked of a graph, it writes no buffers but those that it copies to the host. -/
theorem hosts_run (hs : s.Sound κ) (hx : ¬ s.Fetches x c) :
    (c.run s).2.machine.hosts.get x = s.machine.hosts.get x := by
  rcases hadds : c.adds
  case true =>
    rcases run_of_adds hadds s with ⟨e, hrun⟩ | ⟨name, a, t, -, hrun⟩ <;> rw [hrun]
  cases c with
  | rebind old new =>
    rcases run_rebind old new s with ⟨e, hrun⟩ | ⟨slot, -, -, hrun⟩ <;> rw [hrun]
    exact congrArg (HostMemory.get · x) (s.workspace.hosts_rebound old new slot)
  | warmup =>
    rw [run, Step.snd_bind_pure]
    exact (Graph.opens_warmup s).get_hosts x
  | execute => exact Graph.hosts_execute hs hx
  | synchronize bs =>
    rw [run, Step.snd_bind_pure]
    exact Graph.hosts_synchronize hs hx
  | clearProfile =>
    rw [run, Step.snd_bind_pure, Graph.clearProfile_apply]
    split <;> rfl
  | dispose =>
    simp only [run, Graph.dispose]
    split
    · rfl
    · exact (Workspace.Opens.releaseAll s.workspace).get_hosts x
  | _ => cases hadds

/-- A call that adds no nodes and exchanges no buffers leaves every buffer in its slot. -/
theorem byHost_run (hadds : c.adds = false) (hrebind : ∀ old new, c ≠ .rebind old new) (s : Site) :
    (c.run s).2.graph.table.byHost = s.graph.table.byHost := by
  have hK := Site.allows_byHost
  cases c with
  | rebind old new => exact absurd rfl (hrebind old new)
  | warmup =>
    rw [run, Step.snd_bind_pure]
    exact (Graph.opens_warmup s).byHost
  | execute =>
    refine hK.execute (fun _ _ _ _ => trivial) fun n _ node k args _ => ?_
    exact hK.launch (fun _ _ => trivial) node (fun _ => rfl) fun _ _ _ _ => rfl
  | synchronize bs =>
    rw [run, Step.snd_bind_pure]
    exact hK.synchronize fun _ _ _ _ => trivial
  | clearProfile =>
    rw [run, Step.snd_bind_pure, Graph.clearProfile_apply]
    split <;> rfl
  | dispose =>
    simp only [run, Graph.dispose]
    split
    · rfl
    · exact (Workspace.Opens.releaseAll s.workspace).byHost
  | _ => cases hadds

/-- A buffer that has no slot gets one only where it is bound. -/
theorem slotOf?_run (hx : x ∉ c.binds) (hnone : s.graph.table.slotOf? x = none) :
    (c.run s).2.graph.table.slotOf? x = none := by
  rcases hadds : c.adds
  case true =>
    rcases run_of_adds hadds s with ⟨e, hrun⟩ | ⟨name, a, t, hadd, hrun⟩ <;> rw [hrun]
    · exact hnone
    · exact (hadd.slotOf?_of_not_mem hx).trans hnone
  by_cases hrebind : ∃ old new, c = .rebind old new
  · obtain ⟨old, new, rfl⟩ := hrebind
    rcases run_rebind old new s with ⟨e, hrun⟩ | ⟨slot, -, -, hrun⟩ <;> rw [hrun]
    · exact hnone
    · refine (s.workspace.slotOf?_rebound old new x slot).trans ?_
      rw [if_neg (List.ne_of_not_mem_cons hx)]
      split
      · rfl
      · exact hnone
  · have hkeys := byHost_run hadds (fun old new h => hrebind ⟨old, new, h⟩) s
    rw [SlotTable.slotOf?, hkeys]
    exact hnone

end Command

/-! ### Fleets -/

/-- A user binds a buffer, or puts it in place of another one. -/
def Incident.Binds {ι δ : Type} (u : ι) (x : HostId) : Incident ι δ → Prop
  | request (.call v c) => v = u ∧ x ∈ c.binds
  | _ => False

namespace Fleet

variable {ι δ : Type} [DecidableEq ι] [DecidableEq δ] {κ : KernelId → Kernel}
  {f f' : Fleet ι δ} {u : ι} {x : HostId}

theorem unbound_happen {i : Incident ι δ} (hx : ¬ i.Binds u x)
    (h : (f.graph u).table.slotOf? x = none) :
    ((i.happen f).graph u).table.slotOf? x = none := by
  cases i with
  | elsewhere d y => exact h
  | request r =>
    cases r with
    | host a => exact h
    | configure d faults capacity => exact h
    | call v c =>
      rw [Incident.happen, Request.perform]
      by_cases hv : v = u
      · subst hv
        rw [graph_setSite_self]
        exact Command.slotOf?_run (fun hmem => hx ⟨rfl, hmem⟩) h
      · rw [graph_setSite_ne f (Ne.symm hv)]
        exact h

/-- A buffer without a slot has none until it is bound. -/
theorem unbound_becomes (hf : Becomes κ (fun _ i => ¬ i.Binds u x) f f')
    (h : (f.graph u).table.slotOf? x = none) : (f'.graph u).table.slotOf? x = none := by
  induction hf with
  | refl => exact h
  | step _ i _ hi ih => exact unbound_happen hi ih

/-- A graph writes only where it was told to. Whatever is asked of it, a buffer that is not as
before is in a slot that was to be copied to the host when its time came, whether the call succeeds
or not. A run that succeeds opens every buffer as often as its slot is listed. After an exchange,
the graph does not write the old buffer any more, unless it is bound again. -/
theorem writes_only_fetched {c : Command} {o : Except GraphError Nat} (hf : Attained κ f)
    (hc : c.Valid κ f.hosts) (h : (Request.call u c).perform f = (o, f')) :
    (∀ x, f'.hosts.get x ≠ f.hosts.get x → (f.site u).Fetches x c) ∧
      (∀ n, c = .execute → o = .ok n → ∀ x,
        (f'.hosts.get x).version = (f.hosts.get x).version + (f.graph u).copiesOf x) ∧
      (∀ old new n, c = .rebind old new → o = .ok n → new ≠ old →
        ∀ f₁, Becomes κ (fun _ i => ¬ i.Binds u old) f' f₁ →
          ∀ c₁, ((Request.call u c₁).perform f₁).2.hosts.get old = f₁.hosts.get old) := by
  have hsound := hf.sound
  have hsound' : f'.Sound κ := by
    have hperform := hsound.perform (r := .call u c) hc
    rwa [h] at hperform
  have hsite := hsound.site u
  rcases hrun : c.run (f.site u) with ⟨o', s⟩
  rw [perform_call hrun] at h
  cases h
  refine ⟨fun x hx => ?_, ?_, ?_⟩
  · by_contra hnot
    have hsame := Command.hosts_run hsite hnot
    rw [hrun] at hsame
    exact hx hsame
  · rintro n rfl rfl x
    have hlive : (f.graph u).phase ≠ .disposed := by
      intro hd
      have hrefused := Command.refused_of_disposed (s := f.site u) hd (c := .execute) nofun
      rw [hrun] at hrefused
      cases hrefused
    exact Graph.version_execute hsite hlive hrun x
  · rintro old new n rfl rfl hne f₁ hf₁ c₁
    have hunbound : ((f.setSite u s).graph u).table.slotOf? old = none := by
      rcases Command.run_rebind old new (f.site u) with ⟨e, hr⟩ | ⟨slot, -, -, hr⟩ <;>
        rw [hr] at hrun <;> cases hrun
      rw [graph_setSite_self]
      refine (Workspace.slotOf?_rebound _ old new old slot).trans ?_
      rw [if_neg (Ne.symm hne), if_pos rfl]
    have hnone := unbound_becomes hf₁ hunbound
    exact Command.hosts_run ((hf₁.sound hsound').site u)
      (Site.not_fetches ((hf₁.sound hsound').site u) hnone)

/-- A slot is listed twice for copies to the host. -/
theorem writes_only_fetched_twice :
    let f₀ := single "g" none [.filled (.scalar .uint8) 2 (1 : UInt8)]
    let rs : List (Request Unit Unit) := [.call () (.streamIn [⟨0⟩]),
      .call () (.streamOut [⟨0⟩, ⟨0⟩])]
    let f := (performAll rs f₀).2
    let f' := ((Request.call () .execute).perform f).2
    Attained Kernel.idle f ∧ Command.execute.Valid Kernel.idle f.hosts ∧
      (Request.call () .execute).perform f = (.ok 1, f') ∧
      (f'.hosts.get ⟨0⟩).version = (f.hosts.get ⟨0⟩).version + 2 := by
  intro f₀ rs f f'
  have h₀ : Start f₀ := start_single
  have hr : ValidAll Kernel.idle rs f₀ := by
    have hmade : f₀.hosts.Has ⟨0⟩ := by simp [HostMemory.Has, f₀, single]
    refine h₀.sound.validAll ?_
    simp only [rs, List.forall_mem_cons]
    refine ⟨⟨?_, ?_⟩, ⟨?_, ?_⟩, List.forall_mem_nil _⟩
    · simp [Command.buffers, hmade]
    · rintro _ _ _ ⟨⟩
    · simp [Command.buffers, hmade]
    · rintro _ _ _ ⟨⟩
  have hf : Attained Kernel.idle f := Reachable.attained ⟨f₀, rs, h₀, hr, rfl⟩
  have hc : Command.execute.Valid Kernel.idle f.hosts := by
    refine ⟨fun b hb => absurd hb List.not_mem_nil, ?_⟩
    rintro _ _ _ ⟨⟩
  have ho : ((Request.call () .execute).perform f).1 = .ok 1 := by decide +kernel
  have hrun : (Request.call () .execute).perform f = (.ok 1, f') := Prod.ext ho rfl
  have hversion := (writes_only_fetched hf hc hrun).2.1 1 rfl rfl ⟨0⟩
  have hcopies : (f.graph ()).copiesOf ⟨0⟩ = 2 := by decide +kernel
  rw [hcopies] at hversion
  exact ⟨hf, hc, hrun, hversion⟩

end Fleet

end Offload
