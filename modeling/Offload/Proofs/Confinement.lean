import Offload.Proofs.Running

/-!
# What a node leaves alone

A node works on its own slots, and on the buffers in them if it copies to the host. Everything else
on the machine is as it was, however the node ends: other slots, the device memory of whoever else
uses the device, and all other host buffers.

* `Workspace.Confined` — only some slots were worked on, and the buffers in some slots.
* `Site.Confines` — the same for steps that keep a graph sound as they go.
* `Graph.confines_perform` — a node is confined to its own slots.
-/

namespace Offload

namespace Workspace

variable {T N : SlotId → Prop} {w w' w'' : Workspace} {s : SlotId}

/-- Only the slots for which `T` holds were worked on, and the buffers in those for which `N`
holds. -/
structure Confined (T N : SlotId → Prop) (w w' : Workspace) : Prop where
  /-- the other slots are as they were -/
  get : ∀ s, ¬ T s → w'.table.get s = w.table.get s
  /-- all slots have the same buffers -/
  host : ∀ s, (w'.table.get s).host = (w.table.get s).host
  /-- the block of such a slot was one of theirs before, or was free -/
  origin : ∀ s id, T s → w'.table.block? s = some id →
    (∃ s₀, T s₀ ∧ w.table.block? s₀ = some id) ∨ ∀ b, ¬ w.pool.Lends id b
  /-- all other blocks are on loan as before, with the same contents -/
  lends : ∀ id b, (∀ s, T s → w.table.block? s ≠ some id) → w.pool.Lends id b →
    w'.pool.Lends id b
  /-- the other buffers are as they were -/
  hosts : ∀ h, (∀ s, N s → (w.table.get s).host ≠ h) → w'.hosts.get h = w.hosts.get h

namespace Confined

theorem refl (T N : SlotId → Prop) (w : Workspace) : Confined T N w w where
  get _ _ := rfl
  host _ := rfl
  origin s _ hs hid := .inl ⟨s, hs, hid⟩
  lends _ _ _ hb := hb
  hosts _ _ := rfl

theorem trans (h : Confined T N w w') (h' : Confined T N w' w'') : Confined T N w w'' := by
  -- a block of nobody else that was on loan does not come to a slot in between
  have hfree : ∀ id b, (∀ s, T s → w.table.block? s ≠ some id) → w.pool.Lends id b →
      ∀ s, T s → w'.table.block? s ≠ some id := by
    intro id b hnot hb s hs hid
    rcases h.origin s id hs hid with ⟨s₀, hs₀, hid₀⟩ | hfree
    · exact hnot s₀ hs₀ hid₀
    · exact hfree b hb
  constructor
  case get => exact fun s hs => (h'.get s hs).trans (h.get s hs)
  case host => exact fun s => (h'.host s).trans (h.host s)
  case origin =>
    intro s id hs hid
    rcases h'.origin s id hs hid with ⟨s₀, hs₀, hid₀⟩ | hnot
    · exact h.origin s₀ id hs₀ hid₀
    · by_cases hown : ∃ s₀, T s₀ ∧ w.table.block? s₀ = some id
      · exact .inl hown
      · refine .inr fun b hb => hnot b (h.lends id b ?_ hb)
        exact fun s₀ hs₀ hid₀ => hown ⟨s₀, hs₀, hid₀⟩
  case lends =>
    intro id b hnot hb
    exact h'.lends id b (hfree id b hnot hb) (h.lends id b hnot hb)
  case hosts =>
    intro x hx
    refine (h'.hosts x fun s hs => ?_).trans (h.hosts x hx)
    rw [h.host]
    exact hx s hs

/-- What a slot holds that was not worked on. -/
theorem deviceBytes (h : Confined T N w w') (hw : w.Sound) (hs : ¬ T s) :
    w'.deviceBytes s = w.deviceBytes s := by
  have hblock : w'.table.block? s = w.table.block? s := by
    rw [SlotTable.block?, SlotTable.block?, h.get s hs]
  rcases hid : w.table.block? s with _ | id
  · rw [Workspace.deviceBytes, Workspace.deviceBytes, hblock, hid]
    rfl
  · obtain ⟨b, hb, -⟩ := hw.lends hid
    have hb' : w'.pool.Lends id b := by
      refine h.lends id b (fun s' hs' hid' => ?_) hb
      exact hs (hw.apart s s' id hid hid' ▸ hs')
    rw [deviceBytes_of_lends hid hb, deviceBytes_of_lends (hblock.trans hid) hb']

/-! ### Single steps -/

/-- The device changes blocks of such slots at most. -/
theorem withDevice {B : BlockId → Prop} {d : Device} (hd : Device.Changes B w.device d)
    (hB : ∀ id, B id → ∃ s, T s ∧ w.table.block? s = some id) :
    Confined T N w (w.withDevice d) where
  get _ _ := rfl
  host _ := rfl
  origin s _ hs hid := .inl ⟨s, hs, hid⟩
  lends id b hnot hb := by
    refine hd.lends_of_not hb fun hid => ?_
    obtain ⟨s, hs, hblock⟩ := hB id hid
    exact hnot s hs hblock
  hosts _ _ := rfl

/-- The pool gives back what it keeps. -/
theorem withPool {d : Device} (hk : Pool.Keeps w.pool d.pool) :
    Confined T N w (w.withDevice d) where
  get _ _ := rfl
  host _ := rfl
  origin s _ hs hid := .inl ⟨s, hs, hid⟩
  lends id b _ hb := hk.lends id b hb
  hosts _ _ := rfl

/-- Such a slot changes, but keeps its buffer and its room. -/
theorem setSlot {x : Slot} (hs : T s) (hhost : x.host = (w.table.get s).host)
    (hx : x.allocation = (w.table.get s).allocation) : Confined T N w (w.setSlot s x) where
  get s' hs' := SlotTable.get_set_ne fun he => hs' (he ▸ hs)
  host s' := by
    rcases SlotTable.get_set_cases w.table s s' x with ⟨rfl, -, hget⟩ | ⟨-, hget⟩ <;>
      rw [Workspace.setSlot, hget]
    exact hhost
  origin s' _ hs' hid := .inl ⟨s', hs', by
    rw [Workspace.setSlot, SlotTable.block?_set hx] at hid
    exact hid⟩
  lends _ _ _ hb := hb
  hosts _ _ := rfl

/-- The buffer in such a slot changes. -/
theorem setHost (hs : N s) (h : HostBuffer) : Confined T N w (w.setHost s h) where
  get _ _ := rfl
  host _ := rfl
  origin s' _ hs' hid := .inl ⟨s', hs', hid⟩
  lends _ _ _ hb := hb
  hosts _ hx := HostMemory.get_set_ne w.hosts h (Ne.symm (hx s hs))

/-- A step on such a slot that leaves its buffer there. -/
theorem of_revises {x : Slot} (h : Revises s x w w') (hs : T s)
    (hx : x.host = (w.table.get s).host) (hhosts : w'.hosts = w.hosts) : Confined T N w w' where
  get s' hs' := by
    rcases h.get_cases s' with ⟨he, -⟩ | ⟨-, hget⟩
    · exact absurd (he ▸ hs) hs'
    · exact hget
  host s' := by
    rcases h.get_cases s' with ⟨rfl, -, hget⟩ | ⟨-, hget⟩ <;> rw [hget]
    exact hx
  origin s' id hs' hid := by
    obtain ⟨a, ha, hid⟩ := block?_eq_some.mp hid
    rcases h.get_cases s' with ⟨-, -, hget⟩ | ⟨-, hget⟩ <;> rw [hget] at ha
    · exact (h.origin a id ha hid).imp (fun hold => ⟨s, hs, hold⟩) fun hfree => hfree
    · exact .inl ⟨s', hs', block?_eq_some.mpr ⟨a, ha, hid⟩⟩
  lends id b hnot hb := h.lends id b (hnot s hs) hb
  hosts _ _ := congrArg (HostMemory.get · _) hhosts

theorem ensureAllocated (hw : w.Sound) (hs : T s) : Confined T N w (ensureAllocated s w).2 := by
  rw [ensureAllocated_apply]
  split
  · exact .refl T N w
  · rcases hp : w.pool.alloc (w.host s).byteLen true with ⟨e | id, p⟩ <;>
      obtain ⟨hsound, hkeeps, hnew, -⟩ := Pool.alloc_inv hw.pool hp <;>
      rw [allocate_of_alloc hp]
    · exact .withPool hkeeps
    · obtain ⟨hlent, hfree⟩ := hnew id rfl
      exact .of_revises (hw.revises_allocated hsound hkeeps hlent hfree) hs rfl rfl

theorem serviced (hs : T s) : Serviced (Confined T N) s where
  trans _ _ _ := trans
  device _ _ hd := .withDevice hd fun _ hid => ⟨s, hs, hid⟩
  synced _ _ := .setSlot hs rfl rfl

theorem upload (hw : w.Sound) (hs : T s) : Confined T N w (upload s w).2 :=
  (serviced hs).upload (ensureAllocated hw hs)

theorem download (hs : T s) (hn : N s) (w : Workspace) : Confined T N w (download s w).2 :=
  (serviced hs).download (refl T N) (fun _ => setHost hn) w

/-- Compiling a kernel is about no slot. -/
theorem compile (k : Kernel) (w : Workspace) :
    Confined T N w (onContext (Context.compile k) w).2 := by
  have hdevice : (Context.compile k w.machine.context).2.device = w.device :=
    Context.device_compile k _
  exact
    { get := fun _ _ => rfl
      host := fun _ => rfl
      origin := fun s _ hs hid => .inl ⟨s, hs, hid⟩
      lends := fun id b _ hb => (congrArg (Pool.Lends · id b) (congrArg Device.pool hdevice)).mpr hb
      hosts := fun _ _ => rfl }

/-- A kernel works on what it was given. -/
theorem launch {k k' : Kernel} {args : List TaskArg} {given : List LaunchArg}
    (hT : ∀ s ∈ (Action.task k args).slots, T s)
    (hgiven : args.mapM (Graph.launchArg w.table) = .ok given) :
    Confined T N w (onDevice (Device.launch k' given) w).2 := by
  refine .withDevice (Device.launch_changes w.device k' given) fun id hid => ?_
  obtain ⟨i, type, access, arg, -, -, harg, hblock⟩ := hid.2
  obtain ⟨s, hs, hblock⟩ := slot_of_given hgiven harg hblock
  exact ⟨s, hT s (Action.mem_slots_task.mpr ⟨i, hs⟩), hblock⟩

end Confined

end Workspace

/-! ### Nodes -/

/-- What may be done on the way that is about the slots for which `T` holds, and copies to the host
those for which `N` holds. -/
structure Site.Confines (κ : KernelId → Kernel) (T N : SlotId → Prop) (s s' : Site) : Prop where
  /-- the graph stays sound -/
  progress : Site.Progress κ (fun _ => True) s s'
  /-- nothing else is worked on -/
  confined : s.workspace.Sound → s.machine.context.Faithful κ →
    Workspace.Confined T N s.workspace s'.workspace

namespace Site.Confines

variable {κ : KernelId → Kernel} {T N : SlotId → Prop} {s s' s'' : Site}

theorem trans (h : Confines κ T N s s') (h' : Confines κ T N s' s'') : Confines κ T N s s'' where
  progress := h.progress.trans h'.progress
  confined hw hc := by
    obtain ⟨hw', hc', -⟩ := h.progress.workspace hw hc
    exact (h.confined hw hc).trans (h'.confined hw' hc')

/-- Whatever is done to slots is confined to them. -/
theorem admits (hN : ∀ slot, N slot → T slot) : Site.Admits (Confines κ T N) T N where
  refl s := ⟨.refl s, fun _ _ => .refl T N s.workspace⟩
  trans _ _ _ := trans
  ensureAllocated slot h s :=
    ⟨Graph.allows_progress.ensureAllocated slot trivial s, fun hw _ => .ensureAllocated hw h⟩
  upload slot h s :=
    ⟨Graph.allows_progress.upload slot trivial s, fun hw _ => .upload hw h⟩
  download slot h s :=
    ⟨Graph.allows_progress.download slot trivial s, fun _ _ => .download (hN slot h) h s.workspace⟩
  wait s := by
    have hchanges := Device.synchronize_changes (fun _ => False) s.workspace.device
    exact ⟨Graph.allows_progress.wait s, fun _ _ => .withDevice hchanges nofun⟩

end Site.Confines

/-- A node copies the buffer in a slot to the host. -/
def Action.Fetches (a : Action) (s : SlotId) : Prop :=
  match a with
  | .streamOut slots => s ∈ slots
  | _ => False

theorem Action.mem_slots_of_fetches {a : Action} {slot : SlotId} (h : a.Fetches slot) :
    slot ∈ a.slots := by
  cases a with
  | streamOut slots => exact h
  | _ => exact h.elim

/-- A node is confined to its own slots, and to the buffers in them if it copies to the host. -/
theorem Graph.confines_perform {κ : KernelId → Kernel} {a : Action} (ha : a.Known κ)
    (node : String) :
    Step.Follows (Site.Confines κ (· ∈ a.slots) a.Fetches) (perform node a) := by
  have hadmits := Site.Confines.admits (κ := κ) (T := (· ∈ a.slots)) (N := a.Fetches) fun _ =>
    Action.mem_slots_of_fetches
  refine hadmits.perform (fun _ => id) (fun slots h slot hslot => h ▸ hslot) node ?_
  rintro k args rfl
  refine hadmits.launch (fun _ => id) node (fun s => ?_) fun s p given hgiven => ?_
  · have hprogress := Workspace.follows_compile (W := fun _ => True) ha s.workspace
    exact ⟨⟨hprogress, rfl, rfl⟩, fun _ _ => .compile k s.workspace⟩
  · have hprogress := Workspace.progress_launch (κ := κ) (k := p.kernel) (W := fun _ => True)
      (w := s.workspace) (fun _ _ => trivial) hgiven
    exact ⟨⟨hprogress, rfl, rfl⟩, fun _ _ => .launch (fun _ => id) hgiven⟩

end Offload
