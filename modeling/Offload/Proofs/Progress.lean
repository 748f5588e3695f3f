import Offload.Graph.Execution
import Offload.Proofs.Exchange
import Offload.Proofs.StepLogic

/-!
# Graphs stay sound

Whatever a graph does on its machine, its workspace stays sound, its nodes stay where they are,
and the programs of the context are still those of the kernels that they are filed under.

* `Context.Faithful` — every program under a key is one of the kernel of the key.
* `Context.SamePrograms` — a step that has nothing to do with programs.
* `Site.Sound` — what holds between the calls of a graph.
* `Site.Progress` — what a call may do. Only slots that a task of the graph writes may come to
  differ from their buffers unnoticed.
-/

namespace Offload

/-! ### Programs -/

/-- Every program is filed under the kernel that it came from, and that kernel can be compiled.
An identity stands for one kernel, which `κ` says. -/
structure Context.Faithful (κ : KernelId → Kernel) (c : Context) : Prop where
  /-- the program is one of the kernel -/
  kernel : ∀ key p, c.program? key = some p → p.kernel = κ key.kernel
  /-- the kernel can be compiled -/
  compilable : ∀ key p, c.program? key = some p → (κ key.kernel).compilable key.target = .ok ()

/-- For every identity a kernel that does nothing. -/
def Kernel.idle (id : KernelId) : Kernel := ⟨id, "idle", [], ⟨[.fixed 1]⟩, fun _ => .done⟩

namespace Context

variable {κ : KernelId → Kernel} {c c' c'' : Context} {k : Kernel}

/-- The compiler was not called, no program was forgotten, and the device is the same target. -/
structure SamePrograms (c c' : Context) : Prop where
  /-- the programs -/
  programs : c'.programs = c.programs
  /-- the calls -/
  calls : c'.calls = c.calls
  /-- the target -/
  target : c'.device.target = c.device.target

theorem SamePrograms.refl (c : Context) : SamePrograms c c := ⟨rfl, rfl, rfl⟩

theorem SamePrograms.trans (h : SamePrograms c c') (h' : SamePrograms c' c'') :
    SamePrograms c c'' :=
  ⟨h'.programs.trans h.programs, h'.calls.trans h.calls, h'.target.trans h.target⟩

theorem Faithful.of_programs (hc : c.Faithful κ) (h : c'.programs = c.programs) :
    c'.Faithful κ := by
  have hkey : ∀ key, c'.program? key = c.program? key := fun key => by
    rw [program?, program?, h]
  exact ⟨fun key p hp => hc.kernel key p (hkey key ▸ hp),
    fun key p hp => hc.compilable key p (hkey key ▸ hp)⟩

theorem Faithful.empty (κ : KernelId → Kernel) (d : Device) : (ofDevice d).Faithful κ :=
  ⟨nofun, nofun⟩

/-- A program that is missing is made from its kernel and put under its key. -/
theorem compile_apply (k : Kernel) (c : Context) :
    compile k c =
      match c.program? ⟨k.id, c.device.target⟩ with
      | some p => (.ok p, c)
      | none => match k.compilable c.device.target with
        | .ok () => (.ok ⟨c.issued, k⟩,
            ({ c with
              issued := c.issued + 1
              calls := c.calls.push ⟨⟨k.id, c.device.target⟩, true⟩ } : Context).insert
                ⟨k.id, c.device.target⟩ ⟨c.issued, k⟩)
        | .error e => (.error e,
            { c with calls := c.calls.push ⟨⟨k.id, c.device.target⟩, false⟩ }) := by
  rw [compile, Step.bind_apply, Step.get_apply]
  dsimp only
  rw [getOrCompile, Step.bind_apply, Step.get_apply]
  dsimp only
  rcases hp : c.program? ⟨k.id, c.device.target⟩ with _ | p
  · dsimp only
    rw [Step.bind_apply, invoke, generate]
    rcases k.compilable c.device.target with e | u
    · rfl
    · dsimp only
      rw [Step.bind_apply, Step.get_apply]
      dsimp only
      -- nothing was filed between the two look-ups
      have hnone : program? { c with
          issued := c.issued + 1
          calls := c.calls.push ⟨⟨k.id, c.device.target⟩, true⟩ } ⟨k.id, c.device.target⟩ = none :=
        hp
      show (match program? { c with
          issued := c.issued + 1
          calls := c.calls.push ⟨⟨k.id, c.device.target⟩, true⟩ } ⟨k.id, c.device.target⟩ with
        | some first => pure first
        | none => do
          modify (·.insert ⟨k.id, c.device.target⟩ ⟨c.issued, k⟩)
          pure (⟨c.issued, k⟩ : Program) : Step DeviceError Context Program) _ = _
      rw [hnone]
      rfl
  · rfl

/-- Compiling a kernel does nothing to the device. -/
theorem device_compile (k : Kernel) (c : Context) : (compile k c).2.device = c.device := by
  rw [compile_apply]
  split
  · rfl
  · split <;> rfl

/-- Compiling a kernel leaves the device alone, and leads to a program of that kernel just where
it can be compiled. -/
theorem compile_inv {r : Except DeviceError Program} (hc : c.Faithful κ) (hk : κ k.id = k)
    (h : compile k c = (r, c')) :
    c'.Faithful κ ∧ c'.device = c.device ∧
      ((∃ p, r = .ok p ∧ p.kernel = k ∧ k.compilable c.device.target = .ok ()) ∨
        ∃ e, r = .error e ∧ k.compilable c.device.target = .error e) := by
  rw [compile_apply] at h
  rcases hp : c.program? ⟨k.id, c.device.target⟩ with _ | p <;> rw [hp] at h
  · rcases ht : k.compilable c.device.target with e | u <;> rw [ht] at h
    · cases h
      exact ⟨hc.of_programs rfl, rfl, .inr ⟨e, rfl, rfl⟩⟩
    · cases h
      refine ⟨⟨fun key p hkey => ?_, fun key p hkey => ?_⟩, rfl, .inl ⟨_, rfl, rfl, rfl⟩⟩
      all_goals
        by_cases he : key = ⟨k.id, c.device.target⟩
        · subst he
          rw [program?_insert_self] at hkey
          obtain rfl := Option.some.inj hkey
          simp only [hk, ht]
        · rw [program?_insert_ne _ _ he] at hkey
          first
            | exact hc.kernel key p hkey
            | exact hc.compilable key p hkey
  · cases h
    have hkernel := hc.kernel _ p hp
    have hcomp := hc.compilable _ p hp
    rw [hk] at hkernel hcomp
    exact ⟨hc, rfl, .inl ⟨p, rfl, hkernel, hcomp⟩⟩

end Context

/-! ### Slots -/

namespace Workspace

variable {κ : KernelId → Kernel} {W W' : SlotId → Prop} {w w' w'' : Workspace}

/-- A sound workspace stays sound, may change as `Advances` says, and has the same slots. -/
def Progress (κ : KernelId → Kernel) (W : SlotId → Prop) (w w' : Workspace) : Prop :=
  w.Sound → w.machine.context.Faithful κ → w'.Sound ∧ w'.machine.context.Faithful κ ∧
    Advances W w w' ∧ ∀ s, w'.table.Has s ↔ w.table.Has s

namespace Progress

theorem refl (w : Workspace) : Progress κ W w w :=
  fun hw hc => ⟨hw, hc, .refl W w, fun _ => Iff.rfl⟩

theorem trans (h : Progress κ W w w') (h' : Progress κ W w' w'') : Progress κ W w w'' := by
  intro hw hc
  obtain ⟨hw', hc', ha, hs⟩ := h hw hc
  obtain ⟨hw'', hc'', ha', hs'⟩ := h' hw' hc'
  exact ⟨hw'', hc'', ha.trans ha', fun s => (hs' s).trans (hs s)⟩

/-- A step that leaves the programs alone and makes no slots. -/
theorem of_programs (hp : w'.machine.context.programs = w.machine.context.programs)
    (h : w.Sound → w'.Sound ∧ Advances W w w' ∧ ∀ s, w'.table.Has s ↔ w.table.Has s) :
    Progress κ W w w' := fun hw hc => ⟨(h hw).1, hc.of_programs hp, (h hw).2⟩

/-- A step that serves slots. -/
theorem of_serves {T : SlotId → Prop}
    (hp : w'.machine.context.programs = w.machine.context.programs)
    (h : w.Sound → Serves T w w') : Progress κ W w w' :=
  of_programs hp fun hw => ⟨(h hw).sound, (h hw).advances.mono nofun, (h hw).has⟩

end Progress

/-! ### What leaves programs alone -/

theorem samePrograms_ensureAllocated (s : SlotId) (w : Workspace) :
    w.machine.context.SamePrograms (ensureAllocated s w).2.machine.context := by
  rw [ensureAllocated_apply]
  split
  · exact .refl _
  · rcases hp : w.pool.alloc (w.host s).byteLen true with ⟨e | id, p⟩ <;>
      rw [allocate_of_alloc hp] <;> exact ⟨rfl, rfl, rfl⟩

theorem serviced_samePrograms (s : SlotId) :
    Serviced (fun w w' => w.machine.context.SamePrograms w'.machine.context) s where
  trans _ _ _ h h' := h.trans h'
  device _ _ hd := ⟨rfl, rfl, hd.target⟩
  synced _ _ := .refl _

theorem samePrograms_upload (s : SlotId) (w : Workspace) :
    w.machine.context.SamePrograms (upload s w).2.machine.context :=
  (serviced_samePrograms s).upload (samePrograms_ensureAllocated s w)

theorem samePrograms_download (s : SlotId) (w : Workspace) :
    w.machine.context.SamePrograms (download s w).2.machine.context :=
  (serviced_samePrograms s).download (fun _ => .refl _) (fun _ _ => .refl _) w

theorem follows_ensureAllocated (s : SlotId) :
    Step.Follows (Progress κ W) (ensureAllocated s) := fun w =>
  .of_serves (samePrograms_ensureAllocated s w).programs fun hw => (ensureAllocated_inv hw rfl).1

theorem follows_upload (s : SlotId) : Step.Follows (Progress κ W) (upload s) := fun w =>
  .of_serves (samePrograms_upload s w).programs fun hw => (upload_inv hw rfl).1

theorem follows_download (s : SlotId) : Step.Follows (Progress κ W) (download s) := fun w =>
  .of_serves (samePrograms_download s w).programs fun hw => (download_inv hw rfl).1

/-- Waiting for the device changes no memory. -/
theorem follows_synchronize : Step.Follows (Progress κ W) (onDevice Device.synchronize) := fun w =>
  .of_programs rfl fun hw =>
    have h := hw.withChanges (Device.synchronize_changes (fun _ => False) w.device) nofun
    ⟨h.1, h.2, fun _ => Iff.rfl⟩

/-- Compiling a kernel changes nothing but the programs. -/
theorem follows_compile {k : Kernel} (hk : κ k.id = k) :
    Step.Follows (Progress κ W) (onContext (Context.compile k)) := by
  intro w hw hc
  rcases h : Context.compile k w.machine.context with ⟨r, c⟩
  obtain ⟨hc', hdevice, -⟩ := Context.compile_inv hc hk h
  have hpool : c.device.pool = w.pool := congrArg Device.pool hdevice
  have hw' : (onContext (Context.compile k) w).2 = ⟨⟨w.hosts, c⟩, w.table⟩ := by
    rw [onContext, Step.on_apply, h]
  have hrules : w.device.Continues c.device := by
    rw [hdevice]
    exact .refl _
  have hlends : ∀ id b, w.pool.Lends id b → c.device.pool.Lends id b := by
    intro id b hb
    rw [hpool]
    exact hb
  rw [hw']
  exact ⟨hw.carry (.refl _) (by rw [hpool]; exact hw.pool)
    fun s id b _ hb => ⟨b, hlends id b hb, rfl⟩, hc', ⟨.refl _, hrules, fun _ h => h,
    fun _ _ => rfl, fun s id h => .inl ⟨s, h⟩, fun id b _ hb => hlends id b hb,
    fun s _ hclean => hclean.carry hw (.refl _) fun id b _ hb => hlends id b hb⟩,
    fun _ => Iff.rfl⟩

end Workspace

/-! ### What tasks write -/

/-- A task passes a slot for a parameter that its kernel writes. -/
def Action.Writes (a : Action) (s : SlotId) : Prop :=
  match a with
  | .task k args => ∃ (i : Nat) (t : ElementType) (access : Access),
      k.params[i]? = some (.buffer t access) ∧ access.writes = true ∧ args[i]? = some (.slot s)
  | _ => False

/-- A task of the graph writes a slot. -/
def Graph.Writes (g : Graph) (s : SlotId) : Prop := ∃ n ∈ g.nodes, n.action.Writes s

/-- The identity of the kernel of a task stands for that kernel. -/
def Action.Known (κ : KernelId → Kernel) : Action → Prop
  | .task k _ => κ k.id = k
  | _ => True

/-- A block that a kernel is given is the block of a slot that the task passes. -/
theorem slot_of_given {args : List TaskArg} {given : List LaunchArg} {t : SlotTable} {i : Nat}
    {arg : LaunchArg} {id : BlockId} (hgiven : args.mapM (Graph.launchArg t) = .ok given)
    (harg : given[i]? = some arg) (hid : arg.block = some id) :
    ∃ s, args[i]? = some (.slot s) ∧ t.block? s = some id := by
  obtain ⟨x, hx, hfx⟩ := getElem?_of_mapM hgiven harg
  cases x with
  | scalar v =>
    cases hfx
    cases hid
  | slot s =>
    refine ⟨s, hx, ?_⟩
    rw [Graph.launchArg, SlotTable.launchArg] at hfx
    rcases halloc : (t.get s).allocation with _ | a <;> rw [halloc] at hfx
    · cases hfx
    · cases hfx
      exact Workspace.block?_eq_some.mpr ⟨a, halloc, hid⟩

/-- What a kernel may write when it is given the arguments of a task. -/
theorem block_of_writes {k : Kernel} {args : List TaskArg} {given : List LaunchArg} {t : SlotTable}
    {id : BlockId} (hgiven : args.mapM (Graph.launchArg t) = .ok given)
    (h : k.Writes given id) : ∃ s, (Action.task k args).Writes s ∧ t.block? s = some id := by
  obtain ⟨i, type, access, arg, hp, ha, harg, hid⟩ := h
  obtain ⟨s, hx, hblock⟩ := slot_of_given hgiven harg hid
  exact ⟨s, ⟨i, type, access, hp, ha, hx⟩, hblock⟩

/-- A kernel changes only slots that were passed to be written. -/
theorem Workspace.progress_launch {κ : KernelId → Kernel} {W : SlotId → Prop} {w : Workspace}
    {k : Kernel} {args : List TaskArg} {given : List LaunchArg}
    (hW : ∀ s, (Action.task k args).Writes s → W s)
    (hgiven : args.mapM (Graph.launchArg w.table) = .ok given) :
    Progress κ W w (onDevice (Device.launch k given) w).2 := by
  refine .of_programs rfl ?_
  intro hw
  have h := hw.withChanges (Device.launch_changes _ k given) (W := W) fun id hid => by
    obtain ⟨slot, hslot, hblock⟩ := block_of_writes hgiven hid.2
    exact ⟨slot, hW slot hslot, hblock⟩
  exact ⟨h.1, h.2, fun _ => Iff.rfl⟩

end Offload
