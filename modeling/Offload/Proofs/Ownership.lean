import Offload.Proofs.Command
import Offload.Proofs.Ledger

/-!
# The blocks of a graph

A slot has a block of its own or none. Whatever a graph does, it takes blocks from the pool for
its slots, gives them back when slots no longer need them, and leaves the blocks of everybody
else alone, so that the books of the pool keep balancing.

* `SlotTable.owned` — the blocks of all slots.
* `Workspace.Balances` — if the blocks of the slots and some others account for what is out, they
  do so afterwards.
* `Workspace.Conserves`, `Site.allows_conserves` — what the steps of a run do to the books.
* `Command.balances_run` — every call keeps the books balanced, and a graph that was disposed of
  has no blocks.
* `Command.keeps_run_of_not_adds` — a call that adds no nodes leaves the nodes as they are.
-/

namespace Offload

/-- The block of a slot, if it has one. -/
def Slot.blocks (x : Slot) : List BlockId := (x.allocation.bind Allocation.block).toList

namespace SlotTable

variable {t : SlotTable} {s : SlotId} {x : Slot}

/-- The blocks of all slots, in the order of the slots. -/
def owned (t : SlotTable) : List BlockId := t.slots.toList.flatMap Slot.blocks

theorem getElem?_of_has (hs : t.Has s) : t.slots.toList[s.index]? = some (t.get s) := by
  have : s.index < t.slots.size := hs
  simp [get, Array.getD, this]

/-- The blocks are those of the slots. -/
theorem mem_owned {id : BlockId} : id ∈ t.owned ↔ ∃ s, t.block? s = some id := by
  simp only [owned, List.mem_flatMap, Slot.blocks, Option.mem_toList, block?]
  constructor
  · rintro ⟨x, hx, hid⟩
    obtain ⟨i, hi⟩ := List.mem_iff_getElem?.mp hx
    have hs : t.Has ⟨i⟩ := by
      have := (List.getElem?_eq_some_iff.mp hi).1
      simpa [Has] using this
    obtain rfl : t.get ⟨i⟩ = x := Option.some.inj ((getElem?_of_has hs).symm.trans hi)
    exact ⟨⟨i⟩, hid⟩
  · rintro ⟨s, hid⟩
    have hs : t.Has s := Workspace.has_of_block? hid
    exact ⟨t.get s, List.mem_of_getElem? (getElem?_of_has hs), hid⟩

/-- A slot that is changed gives up its block for that of the new one. -/
theorem perm_owned_set (hs : t.Has s) (x : Slot) :
    ((t.get s).blocks ++ (t.set s x).owned).Perm (x.blocks ++ t.owned) := by
  have h := perm_flatMap_set Slot.blocks x (getElem?_of_has hs)
  rwa [← Array.toList_setIfInBounds] at h

/-- A slot that is changed with its block kept makes no difference. -/
theorem perm_owned_set_of_blocks (hx : x.blocks = (t.get s).blocks) :
    (t.set s x).owned.Perm t.owned := by
  by_cases hs : t.Has s
  · exact (List.perm_append_left_iff _).mp (hx ▸ perm_owned_set hs x)
  · rw [set_of_not_has hs]

/-- New slots have no blocks. -/
theorem owned_bind (t : SlotTable) (h : HostId) : (t.bind h).2.owned = t.owned := by
  rcases hs : t.slotOf? h with _ | s
  · rw [bind_of_none hs]
    simp [owned, Slot.blocks, Slot.fresh]
  · rw [bind_of_some hs]

theorem owned_bindAll (t : SlotTable) (hs : List HostId) : (t.bindAll hs).2.owned = t.owned := by
  induction hs generalizing t with
  | nil => rfl
  | cons h r ih => exact (ih _).trans (owned_bind t h)

end SlotTable

/-- A device that has done nothing but change contents has balanced books. -/
theorem Device.Changes.balanced {W : BlockId → Prop} {d d' : Device} {limit : Option Nat}
    {keep : Nat} {out : List BlockId} (h : Changes W d d') (hd : d.pool.Balanced limit keep out) :
    d'.pool.Balanced limit keep out := by
  rw [h.pool_eq]
  exact hd.changes h.arena

namespace Workspace

variable {w w' w'' : Workspace} {s : SlotId} {x : Slot} {T : SlotId → Prop}

/-- If the blocks of the slots account for what is out, together with those of others, they do so
afterwards, whoever the others are. The same calls of the device fail. -/
structure Balances (w w' : Workspace) : Prop where
  /-- the books stay balanced -/
  books : ∀ limit keep others, w.pool.Balanced limit keep (w.table.owned ++ others) →
    w'.pool.Balanced limit keep (w'.table.owned ++ others)
  /-- the same calls fail -/
  faults : w'.device.faults = w.device.faults

namespace Balances

theorem refl (w : Workspace) : Balances w w := ⟨fun _ _ _ hb => hb, rfl⟩

theorem trans (h : Balances w w') (h' : Balances w' w'') : Balances w w'' :=
  ⟨fun limit keep others hb => h'.books limit keep others (h.books limit keep others hb),
    h'.faults.trans h.faults⟩

/-- The device was left alone, and the slots have the same blocks. -/
theorem of_perm (hd : w'.device = w.device) (ht : w'.table.owned.Perm w.table.owned) :
    Balances w w' := by
  refine ⟨?_, congrArg Device.faults hd⟩
  intro limit keep others hb
  rw [show w'.pool = w.pool from congrArg Device.pool hd]
  exact hb.perm (ht.symm.append_right _)

end Balances

/-- What a run may do to the slots for which `T` holds. -/
structure Conserves (T : SlotId → Prop) (w w' : Workspace) : Prop where
  /-- there are the same slots -/
  has : ∀ s, w'.table.Has s ↔ w.table.Has s
  /-- slots and buffers lead to each other -/
  inverse : w.table.Inverse → w'.table.Inverse
  /-- the books stay balanced -/
  balances : (∀ s, T s → w.table.Has s) → Balances w w'

namespace Conserves

theorem refl (T : SlotId → Prop) (w : Workspace) : Conserves T w w :=
  ⟨fun _ => Iff.rfl, fun h => h, fun _ => .refl w⟩

theorem trans (h : Conserves T w w') (h' : Conserves T w' w'') : Conserves T w w'' where
  has s := (h'.has s).trans (h.has s)
  inverse hw := h'.inverse (h.inverse hw)
  balances hT := (h.balances hT).trans (h'.balances fun s hs => (h.has s).mpr (hT s hs))

/-- Contents of device memory do not matter. -/
theorem withDevice {W : BlockId → Prop} {d : Device} (h : Device.Changes W w.device d) :
    Conserves T w (w.withDevice d) :=
  ⟨fun _ => Iff.rfl, fun h => h, fun _ => ⟨fun _ _ _ hb => h.balanced hb, h.faults⟩⟩

/-- A slot may change with its buffer and its block kept. -/
theorem setSlot (hhost : x.host = (w.table.get s).host)
    (hx : x.blocks = (w.table.get s).blocks) : Conserves T w (w.setSlot s x) where
  has _ := SlotTable.has_set
  inverse hw := hw.set hhost
  balances _ := .of_perm rfl (SlotTable.perm_owned_set_of_blocks hx)

/-- Host memory does not matter. -/
theorem setHost (w : Workspace) (s : SlotId) (h : HostBuffer) : Conserves T w (w.setHost s h) :=
  ⟨fun _ => Iff.rfl, fun h => h, fun _ => ⟨fun _ _ _ hb => hb, rfl⟩⟩

/-- A slot without a block may get one from the pool. -/
theorem ensureAllocated (hs : T s) (w : Workspace) : Conserves T w (ensureAllocated s w).2 := by
  rw [ensureAllocated_apply]
  split
  · exact .refl T w
  · rename_i hnone
    rcases hp : w.pool.alloc (w.host s).byteLen true with ⟨e | id, p⟩ <;> rw [allocate_of_alloc hp]
    · refine ⟨fun _ => Iff.rfl, fun h => h, fun _ => ⟨fun limit keep others hb => ?_, rfl⟩⟩
      obtain ⟨-, ⟨_, he, -⟩ | ⟨-, hrefused, -⟩⟩ := hb.alloc hp
      · cases he
      · exact hrefused
    · refine ⟨fun _ => SlotTable.has_set, fun h => h.set rfl,
        fun hT => ⟨fun limit keep others hb => ?_, rfl⟩⟩
      obtain ⟨-, ⟨_, he, hgranted, -⟩ | ⟨⟨_, he⟩, -⟩⟩ := hb.alloc hp
      · cases he
        have hempty : (w.table.get s).blocks = [] := by
          rcases ha : (w.table.get s).allocation with _ | ⟨type, len, _ | id'⟩
          · simp [Slot.blocks, ha]
          · simp [Slot.blocks, ha]
          · simp [Slot.isAllocated, Allocation.isAllocated, ha] at hnone
        have hperm := SlotTable.perm_owned_set (hT s hs)
          ⟨(w.table.get s).host, some ⟨(w.host s).type, (w.host s).len, some id⟩, none⟩
        rw [hempty] at hperm
        exact hgranted.perm (hperm.symm.append_right others)
      · cases he

theorem serviced (T : SlotId → Prop) (s : SlotId) : Serviced (Conserves T) s where
  trans _ _ _ := trans
  device _ _ hd := withDevice hd
  synced _ _ := .setSlot rfl rfl

theorem upload (hs : T s) (w : Workspace) : Conserves T w (upload s w).2 :=
  (serviced T s).upload (ensureAllocated hs w)

theorem download (s : SlotId) (w : Workspace) : Conserves T w (download s w).2 :=
  (serviced T s).download (refl T) (fun w => setHost w s) w

/-- Compiling a kernel is about no slot. -/
theorem compile (k : Kernel) (w : Workspace) :
    Conserves T w (onContext (Context.compile k) w).2 :=
  ⟨fun _ => Iff.rfl, fun h => h, fun _ => .of_perm (Context.device_compile k _) (.refl _)⟩

end Conserves

/-! ### Giving blocks back -/

/-- A slot that gives up its memory gives its block back. -/
theorem balanced_drop {limit : Option Nat} {keep : Nat} {others : List BlockId} (hs : w.table.Has s)
    (hx : x.blocks = []) (hb : w.pool.Balanced limit keep (w.table.owned ++ others)) :
    (w.drop (w.table.get s).allocation).pool.Balanced limit keep
      ((w.table.set s x).owned ++ others) := by
  have hperm := SlotTable.perm_owned_set hs x
  rw [hx, Slot.blocks] at hperm
  rcases ha : (w.table.get s).allocation with _ | ⟨type, len, _ | id⟩ <;> rw [ha] at hperm
  · exact hb.perm (hperm.symm.append_right others)
  · exact hb.perm (hperm.symm.append_right others)
  · exact (hb.perm (hperm.symm.append_right others)).free.1

theorem faults_drop (w : Workspace) (a : Option Allocation) :
    (w.drop a).device.faults = w.device.faults := by
  cases a <;> rfl

theorem balances_release (w : Workspace) (s : SlotId) : Balances w (w.release s) := by
  refine ⟨?_, faults_drop _ _⟩
  intro limit keep others hb
  rw [table_release]
  by_cases hs : w.table.Has s
  · exact balanced_drop hs rfl hb
  · have hpool : (w.release s).pool = w.pool := by
      simp only [release, SlotTable.get_of_not_has hs]
      rfl
    rw [hpool, SlotTable.set_of_not_has hs]
    exact hb

theorem balances_foldl_release (ns : List Nat) (w : Workspace) :
    Balances w (ns.foldl (fun w i => w.release ⟨i⟩) w) := by
  induction ns generalizing w with
  | nil => exact .refl w
  | cons n ns ih => exact (balances_release w ⟨n⟩).trans (ih _)

theorem inverse_foldl_release (ns : List Nat) (ht : w.table.Inverse) :
    (ns.foldl (fun w i => w.release ⟨i⟩) w).table.Inverse := by
  induction ns generalizing w with
  | nil => exact ht
  | cons n ns ih =>
    refine ih ?_
    rw [table_release]
    exact ht.set rfl

/-- A slot that is released has no memory, and does not get any when others are. -/
theorem allocation_foldl_release (ns : List Nat) {w : Workspace}
    (h : s.index ∈ ns ∨ (w.table.get s).allocation = none) :
    ((ns.foldl (fun w i => w.release ⟨i⟩) w).table.get s).allocation = none := by
  induction ns generalizing w with
  | nil => simpa using h
  | cons n ns ih =>
    refine ih ?_
    rw [table_release]
    rcases SlotTable.get_set_cases w.table ⟨n⟩ s (.fresh (w.table.get ⟨n⟩).host) with
      ⟨-, -, hget⟩ | ⟨hne, hget⟩ <;> rw [hget]
    · exact .inr rfl
    · rcases h with h | h
      · rcases List.mem_cons.mp h with he | h
        · -- the slot was not made
          have hnot := hne (by cases s; exact congrArg SlotId.mk he)
          refine .inr ?_
          rw [SlotTable.get_of_not_has (by rw [← he] at hnot; exact hnot)]
          rfl
        · exact .inl h
      · exact .inr h

/-- After all slots were released, none has a block. -/
theorem owned_releaseAll (w : Workspace) : w.releaseAll.table.owned = [] := by
  refine List.eq_nil_iff_forall_not_mem.mpr ?_
  intro id hid
  obtain ⟨s, hs⟩ := SlotTable.mem_owned.mp hid
  have hhas : w.table.Has s := (has_foldl_release _ w s).mp (has_of_block? hs)
  have hnone := allocation_foldl_release (w := w) _ (.inl (List.mem_range.mpr hhas))
  rw [SlotTable.block?, releaseAll, hnone] at hs
  cases hs

/-- An exchange keeps a block or gives it back. -/
theorem balances_rebind (old new : HostId) (ht : w.table.Inverse) :
    Balances w (rebind old new w).2 ∧ (rebind old new w).2.table.Inverse := by
  rw [rebind_apply]
  rcases hs : w.table.slotOf? old with _ | s
  · exact ⟨.refl w, ht⟩
  · dsimp only
    split
    · exact ⟨.refl w, ht⟩
    · rename_i hbound
      split
      · exact ⟨.refl w, ht⟩
      · have hfree : new ≠ old → w.table.slotOf? new = none := fun hne =>
          Option.not_isSome_iff_eq_none.mp fun hsome => hbound ⟨hne, hsome⟩
        rw [rebound]
        split
        · refine ⟨.of_perm rfl ?_, ht.replace hs hfree rfl⟩
          exact SlotTable.perm_owned_set_of_blocks (s := s) rfl
        · exact ⟨⟨fun _ _ _ => balanced_drop (ht.has_of_slotOf? hs) rfl, faults_drop _ _⟩,
            ht.replace hs hfree rfl⟩

end Workspace

/-! ### Graphs -/

/-- What a run may do to the slots for which `T` holds, as seen from the graph. -/
structure Site.Conserves (T : SlotId → Prop) (s s' : Site) : Prop where
  /-- the books stay balanced -/
  workspace : s.workspace.Conserves T s'.workspace
  /-- the nodes are the same -/
  nodes : s'.graph.nodes = s.graph.nodes
  /-- a graph that is alive stays so -/
  live : s.graph.phase ≠ .disposed → s'.graph.phase ≠ .disposed

namespace Site

open Step

variable {T : SlotId → Prop}

theorem conserves_onWorkspace {α : Type} {m : Step DeviceError Workspace α}
    (hm : ∀ w : Workspace, w.Conserves T (m w).2) : Follows (Conserves T) (onWorkspace m) :=
  fun s => ⟨hm s.workspace, rfl, fun h => h⟩

theorem allows_conserves (T : SlotId → Prop) : Allows (Conserves T) T where
  refl s := ⟨.refl T _, rfl, fun h => h⟩
  trans _ _ _ h h' := ⟨h.workspace.trans h'.workspace, h'.nodes.trans h.nodes,
    fun hs => h'.live (h.live hs)⟩
  graph f hf s := by
    refine ⟨?_, hf.nodes _, hf.live _⟩
    rw [workspace_withGraph (hf.table s.graph)]
    exact .refl T _
  ensureAllocated _ hslot := conserves_onWorkspace (Workspace.Conserves.ensureAllocated hslot)
  upload _ hslot := conserves_onWorkspace (Workspace.Conserves.upload hslot)
  download slot _ := conserves_onWorkspace (Workspace.Conserves.download slot)
  wait := conserves_onWorkspace fun w =>
    .withDevice (Device.synchronize_changes (fun _ => False) w.device)

theorem conserves_compile (k : Kernel) :
    Follows (Conserves T) (onWorkspace (Workspace.onContext (Context.compile k))) :=
  conserves_onWorkspace (Workspace.Conserves.compile k)

/-- A task takes blocks for its slots only, whatever its kernel does. -/
theorem conserves_launch {k : Kernel} {args : List TaskArg}
    (hT : ∀ slot ∈ (Action.task k args).slots, T slot) (node : String) :
    Follows (Conserves T) (Graph.launch node k args) := by
  refine (allows_conserves T).launch hT node (conserves_compile k) fun s p given _ => ?_
  exact conserves_onWorkspace (fun w =>
    .withDevice (Device.launch_changes w.device p.kernel given)) s

end Site

/-- What holds of a graph between its calls. -/
structure Graph.Tidy (g : Graph) : Prop where
  /-- slots and buffers lead to each other -/
  inverse : g.table.Inverse
  /-- the slots are those of the nodes -/
  built : g.Built
  /-- what was disposed of has no blocks -/
  disposed : g.phase = .disposed → g.table.owned = []

theorem Graph.Tidy.empty (name : String) : (Graph.empty name).Tidy :=
  ⟨.empty, .empty name, fun _ => rfl⟩

namespace Command

variable {s : Site}

/-- The same nodes about the same slots. -/
def Keeps (s s' : Site) : Prop :=
  s'.graph.nodes = s.graph.nodes ∧ ∀ slot, s'.graph.table.Has slot ↔ s.graph.table.Has slot

theorem Keeps.refl (s : Site) : Keeps s s := ⟨rfl, fun _ => Iff.rfl⟩

theorem keeps_of_conserves {T : SlotId → Prop} {s' : Site} (h : s.Conserves T s') : Keeps s s' :=
  ⟨h.nodes, h.workspace.has⟩

/-- A call that adds no node leaves nodes and slots alone. -/
theorem keeps_run_of_not_adds {c : Command} (hadds : c.adds = false) (s : Site) :
    Keeps s (c.run s).2 := by
  by_cases hlive : s.graph.phase = .disposed
  · rw [run_of_disposed hlive]
    exact .refl s
  have hK := Site.allows_conserves fun _ => True
  cases c with
  | rebind old new =>
    rw [run, Step.snd_bind_pure, Graph.rebind_apply, if_neg hlive]
    have hhas := Workspace.has_rebind old new s.workspace
    split <;> rename_i h <;> rw [h] at hhas <;> exact ⟨rfl, hhas⟩
  | warmup =>
    rw [run, Step.snd_bind_pure]
    exact keeps_of_conserves
      (hK.warmup (fun _ _ _ _ => trivial) fun _ _ k _ _ => Site.conserves_compile k)
  | execute =>
    exact keeps_of_conserves (hK.execute (fun _ _ _ _ => trivial)
      fun _ _ node _ _ _ => Site.conserves_launch (fun _ _ => trivial) node)
  | synchronize bs =>
    rw [run, Step.snd_bind_pure]
    exact keeps_of_conserves (hK.synchronize fun _ _ _ _ => trivial)
  | clearProfile =>
    rw [run, Step.snd_bind_pure, Graph.clearProfile_apply, if_neg hlive]
    exact .refl s
  | dispose =>
    simp only [run, Graph.dispose, if_neg hlive]
    exact ⟨rfl, Workspace.has_foldl_release _ s.workspace⟩
  | _ => cases hadds

/-- A graph that goes on being alive after a run, with balanced books. -/
theorem tidy_of_conserves {T : SlotId → Prop} {s' : Site} (hs : s.graph.Tidy)
    (hlive : s.graph.phase ≠ .disposed) (hT : ∀ slot, T slot → s.graph.table.Has slot)
    (h : s.Conserves T s') : s'.graph.Tidy ∧ s.workspace.Balances s'.workspace :=
  ⟨⟨h.workspace.inverse hs.inverse, hs.built.of_nodes h.nodes h.workspace.has,
    fun hd => absurd hd (h.live hlive)⟩, h.workspace.balances hT⟩

/-- A graph with one more node, and with slots that have no blocks yet. -/
theorem tidy_push {t : SlotTable} {name : String} {a : Action}
    (hlive : s.graph.phase ≠ .disposed) (ht : t.Inverse) (ho : t.owned = s.graph.table.owned)
    (hb : ({ s.graph with table := t }.push name a).Built) :
    ({ s.graph with table := t }.push name a).Tidy ∧
      s.workspace.Balances ⟨s.machine, t⟩ := by
  refine ⟨⟨ht, hb, fun hd => ?_⟩, .of_perm rfl (.of_eq ho)⟩
  simp only [Graph.push] at hd
  split at hd
  · cases hd
  · exact absurd hd hlive

/-- Whatever is asked of a graph, the books stay balanced. -/
theorem balances_run (hs : s.graph.Tidy) (c : Command) :
    (c.run s).2.graph.Tidy ∧ s.workspace.Balances (c.run s).2.workspace := by
  by_cases hlive : s.graph.phase = .disposed
  · rw [run_of_disposed hlive]
    exact ⟨hs, .refl _⟩
  have hK := Site.allows_conserves s.graph.table.Has
  have hT : ∀ n ∈ s.graph.nodes, ∀ slot ∈ n.action.slots, s.graph.table.Has slot :=
    fun n hn slot h => (hs.built.slots slot).mpr ⟨n, hn, h⟩
  rcases hadds : c.adds
  case true =>
    rcases run_of_adds hadds s with ⟨e, hrun⟩ | ⟨name, a, t, hadd, hrun⟩ <;> rw [hrun]
    · exact ⟨hs, .refl _⟩
    · have hbuilt := hadd.built hs.inverse hs.built name
      obtain ⟨buffers, -, rfl⟩ := hadd.exists_bindAll
      exact tidy_push hlive (hs.inverse.bindAll buffers) (SlotTable.owned_bindAll _ _) hbuilt
  cases c with
  | rebind old new =>
    rw [run, Step.snd_bind_pure, Graph.rebind_apply, if_neg hlive]
    obtain ⟨hb, hinv⟩ := Workspace.balances_rebind (w := s.workspace) old new hs.inverse
    have hslots := Workspace.has_rebind old new s.workspace
    split <;> rename_i h <;> rw [h] at hb hinv hslots <;>
      exact ⟨⟨hinv, hs.built.of_nodes rfl hslots, fun hd => absurd hd hlive⟩, hb⟩
  | warmup =>
    rw [run, Step.snd_bind_pure]
    exact tidy_of_conserves hs hlive (fun _ h => h)
      (hK.warmup hT fun _ _ k _ _ => Site.conserves_compile k)
  | execute =>
    refine tidy_of_conserves hs hlive (fun _ h => h) (hK.execute hT fun n hn node k args ha => ?_)
    exact Site.conserves_launch (ha ▸ hT n hn) node
  | synchronize bs =>
    rw [run, Step.snd_bind_pure]
    exact tidy_of_conserves hs hlive (fun _ h => h)
      (hK.synchronize fun _ _ _ h => hs.inverse.has_of_slotOf? h)
  | clearProfile =>
    rw [run, Step.snd_bind_pure, Graph.clearProfile_apply, if_neg hlive]
    exact ⟨⟨hs.inverse, hs.built.of_nodes rfl fun _ => Iff.rfl, hs.disposed⟩, .refl _⟩
  | dispose =>
    simp only [run, Graph.dispose, if_neg hlive]
    exact ⟨⟨Workspace.inverse_foldl_release _ hs.inverse,
      hs.built.of_nodes rfl (Workspace.has_foldl_release _ s.workspace),
      fun _ => Workspace.owned_releaseAll _⟩, Workspace.balances_foldl_release _ _⟩
  | _ => cases hadds

end Command

end Offload
