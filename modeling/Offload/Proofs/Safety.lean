import Offload.Proofs.Launching
import Offload.Proofs.Rerun
import Offload.Proofs.Typing

/-!
# What a run can fail with

What was checked when a graph was built need not be checked again. Buffers may have been exchanged
many times since, and the device memory behind them may have been given up; still a run finds
memory for all that it copies, gives every kernel arguments that it takes, and finds the length of
every buffer that it asks for. On the host, whose device calls do not fail, a run can only fail
for want of memory, for a kernel that cannot be compiled, for an extent that is out of range, and
with what the body of a kernel raises.

* `Action.Fails` — what a node can fail with.
* `Site.Healthy` — a graph that is as builders and runs leave it, on a device that does not fail.
* `Site.Runs` — what holds on the way from node to node: some slots have device memory.
* `Site.Runs.perform` — one node; `Site.Healthy.execute_error` is about a whole run.
* `Graph.prepare` — what comes before a task reaches the device.
* `Fleet.Reachable.healthy` — whatever was asked of a fleet, its graphs are healthy.
* `Fleet.execute_safe` — what that means for the next run.
-/

namespace Offload

open Step

/-! ### What a node can fail with -/

/-- What a node can fail with on a device that does not fail. -/
inductive Action.Fails (node : String) : Action → GraphError → Prop where
  /-- there is no memory for one of its slots -/
  | memory {a : Action} {slot : SlotId} {w : Workspace} {requested available : Nat}
      (hkind : a.kind ≠ .streamOut) (hslot : slot ∈ a.slots)
      (h : (Workspace.ensureAllocated slot w).1 = .error (.outOfMemory requested available)) :
      Fails node a (.deviceOutOfMemory node (.outOfMemory requested available))
  /-- the iteration space of its kernel does not go with the parameters -/
  | compilation {k : Kernel} {args : List TaskArg} {e : SpaceError}
      (h : k.space.validate k.params = .error e) :
      Fails node (.task k args) (.compilation node (.compilation k.name e.message))
  /-- an extent is the value of an argument that is negative or too large -/
  | extent {k : Kernel} {args : List TaskArg} {i : Nat} {v : Scalar} {e : ExtentError}
      (hdim : .scalar i ∈ k.space.dims) (harg : args[i]? = some (.scalar v)) (h : v.Misfit i e) :
      Fails node (.task k args) (.launchFailure node (.launch k.name e.message))
  /-- the body of its kernel reports an error or crashes -/
  | body {k : Kernel} {args : List TaskArg} {given : List LaunchArg} {halt : Halt}
      (h : k.Raises given halt) :
      Fails node (.task k args) (Graph.nodeError node .launch (halt.toError k.name))

namespace Kernel

/-- On the host, a kernel can be compiled if its space goes with its parameters. -/
theorem compilable_cpu (k : Kernel) : k.compilable .cpu =
    (k.space.validate k.params).mapError fun e => .compilation k.name e.message :=
  if_neg (not_not_intro rfl)

end Kernel

/-! ### Workspaces -/

namespace Workspace

variable {w : Workspace} {s : SlotId}

/-- A slot that has memory goes on having some, whatever is done to contents. -/
theorem Sound.bytes_withDevice {B : BlockId → Prop} {d : Device} (hw : w.Sound)
    (hd : Device.Changes B w.device d) (hb : ∃ b, w.deviceBytes s = some b) :
    ∃ b, (w.withDevice d).deviceBytes s = some b := by
  obtain ⟨c, hc⟩ := hb
  rcases hid : w.table.block? s with _ | id
  · rw [deviceBytes, hid] at hc
    cases hc
  · obtain ⟨b, hlends, -⟩ := hw.lends hid
    obtain ⟨b', hlends', -⟩ := hd.lends hlends
    exact ⟨_, deviceBytes_of_lends (w := w.withDevice d) hid hlends'⟩

/-- Copying to a slot that has memory does not fail, where no such call fails. -/
theorem Sound.upload_ok (hw : w.Sound) (hq : ∀ n, w.device.faults .upload n = false)
    (hb : ∃ b, w.deviceBytes s = some b) : ∃ w', upload s w = (.ok (), w') := by
  obtain ⟨c, hc⟩ := hb
  rcases hid : w.table.block? s with _ | id
  · rw [deviceBytes, hid] at hc
    cases hc
  · obtain ⟨a, ha, -⟩ := block?_eq_some.mp hid
    have hroom : ensureAllocated s w = (.ok false, w) := by
      rw [ensureAllocated_apply, if_pos (isAllocated_iff.mpr ⟨id, hid⟩)]
    rw [upload_apply, hroom]
    dsimp only
    rw [ha]
    dsimp only
    rcases hup : Device.upload a (w.host s).bytes w.device with ⟨r, d⟩
    obtain ⟨-, ⟨n, -, -, hfails⟩, -⟩ | ⟨rfl, -⟩ := hw.fill_inv ha hup
    · rw [hq n] at hfails
      cases hfails
    · exact ⟨_, rfl⟩

/-- Copying from a slot that has memory does not fail, where no such call fails. -/
theorem Sound.download_ok (hw : w.Sound) (hq : ∀ n, w.device.faults .download n = false)
    (hb : ∃ b, w.deviceBytes s = some b) : ∃ w', download s w = (.ok (), w') := by
  rcases hr : download s w with ⟨r, w'⟩
  obtain ⟨-, ⟨rfl, -⟩ | ⟨-, ⟨n, -, -, hfails⟩, -⟩ | ⟨-, hnone, -⟩⟩ := download_inv hw hr
  · exact ⟨w', rfl⟩
  · rw [hq n] at hfails
    cases hfails
  · obtain ⟨b, hb⟩ := hb
    rw [deviceBytes, hnone] at hb
    cases hb

end Workspace

/-! ### On the way -/

/-- A graph on a device of the host that does not fail, in good order: what is read was made
available, and tasks fit their kernels. -/
structure Site.Healthy (κ : KernelId → Kernel) (s : Site) : Prop where
  /-- the site is sound -/
  sound : s.Sound κ
  /-- tasks fit their kernels -/
  typed : ∀ n ∈ s.graph.nodes, n.action.Typed s.workspace
  /-- the device is the host -/
  target : s.machine.context.device.target = .cpu
  /-- no call of the device fails -/
  quiet : ∀ c n, s.machine.context.device.faults c n = false

theorem Site.Healthy.progress {κ : KernelId → Kernel} {W : SlotId → Prop} {s s' : Site}
    (hs : s.Healthy κ) (h : Site.Progress κ W s s') : s'.Healthy κ := by
  have hadvances := h.advances hs.sound
  refine ⟨h.sound hs.sound, ?_, hadvances.rules.target.trans hs.target, ?_⟩
  · intro n hn
    rw [h.nodes] at hn
    refine (hs.typed n hn).of_types fun slot hslot => hadvances.type slot ?_
    exact (hs.sound.built.slots slot).mpr ⟨n, hn, hslot⟩
  · intro c n
    rw [show s'.machine.context.device.faults = s.machine.context.device.faults from
      hadvances.rules.faults]
    exact hs.quiet c n

/-- What holds in the course of a run of `s₀`. There is device memory for the slots for which `D`
holds. -/
structure Site.Runs (κ : KernelId → Kernel) (s₀ : Site) (D : SlotId → Prop) (s : Site) :
    Prop where
  /-- the graph is in good order -/
  healthy : s.Healthy κ
  /-- it has its name -/
  name : s.graph.name = s₀.graph.name
  /-- it has its nodes -/
  nodes : s.graph.nodes = s₀.graph.nodes
  /-- some slots have device memory -/
  memory : ∀ slot, D slot → ∃ b, s.workspace.deviceBytes slot = some b

namespace Site.Runs

open Offload.Graph

variable {κ : KernelId → Kernel} {s₀ s : Site} {D W : SlotId → Prop} {n : Node} {slot : SlotId}
  {node : String} {E : GraphError → Prop}

theorem mono {M : SlotId → Prop} (h : Runs κ s₀ D s) (hM : ∀ slot, M slot → D slot) :
    Runs κ s₀ M s := { h with memory := fun slot hslot => h.memory slot (hM slot hslot) }

/-- The first slot of a list has memory, and so have the others. -/
theorem cons {r : List SlotId} (h : Runs κ s₀ (fun x => (D x ∨ x = slot) ∨ x ∈ r) s) :
    Runs κ s₀ (fun x => D x ∨ x ∈ slot :: r) s := by
  refine h.mono fun x hx => ?_
  rcases hx with hx | hx
  · exact .inl (.inl hx)
  · exact (List.mem_cons.mp hx).imp_left .inr

/-- The slots of a node were made. -/
theorem has (h : Runs κ s₀ D s) (hn : n ∈ s₀.graph.nodes) (hslot : slot ∈ n.action.slots) :
    s.workspace.table.Has slot :=
  (h.healthy.sound.built.slots slot).mpr ⟨n, h.nodes ▸ hn, hslot⟩

/-- A minor change of the graph does not matter. -/
theorem withGraph {f : Graph → Graph} (h : Runs κ s₀ D s) (hf : Minor f) :
    Runs κ s₀ D (s.withGraph f) := by
  have hp : Site.Progress κ (fun _ => False) s (s.withGraph f) := allows_progress.graph f hf s
  refine ⟨h.healthy.progress hp, hp.name.trans h.name, hp.nodes.trans h.nodes, ?_⟩
  rw [workspace_withGraph (hf.table _)]
  exact h.memory

/-- A step on the slots for a node. -/
theorem inNode {α : Type} {m : Step DeviceError Workspace α} {P : α → Prop} {M : SlotId → Prop}
    {stage : Stage} (h : Runs κ s₀ D s)
    (hp : Workspace.Progress κ W s.workspace (m s.workspace).2)
    (hok : ∀ x w, m s.workspace = (.ok x, w) →
      P x ∧ ∀ slot, M slot → ∃ b, w.deviceBytes slot = some b)
    (herror : ∀ e, (m s.workspace).1 = .error e → E (nodeError node stage e)) :
    Ends (fun x s' => P x ∧ Runs κ s₀ M s') E (inNode node stage m s) := by
  have hsite : Site.Progress κ W s (s.setWorkspace (m s.workspace).2) := ⟨hp, rfl, rfl⟩
  rw [inNode_apply]
  rcases hm : m s.workspace with ⟨e | x, w⟩ <;> rw [hm] at hsite
  · exact .error (herror e (congrArg Prod.fst hm))
  · obtain ⟨hx, hmemory⟩ := hok x w hm
    exact .ok ⟨hx, h.healthy.progress hsite, h.name, h.nodes, hmemory⟩

/-- A step on the slots for a node whose result does not matter. -/
theorem inNode_memory {α : Type} {m : Step DeviceError Workspace α} {M : SlotId → Prop}
    {stage : Stage} (h : Runs κ s₀ D s)
    (hp : Workspace.Progress κ W s.workspace (m s.workspace).2)
    (hok : ∀ x w, m s.workspace = (.ok x, w) → ∀ slot, M slot → ∃ b, w.deviceBytes slot = some b)
    (herror : ∀ e, (m s.workspace).1 = .error e → E (nodeError node stage e)) :
    Ends (fun _ s' => Runs κ s₀ M s') E (Graph.inNode node stage m s) :=
  (h.inNode (P := fun _ => True) hp (fun x w hm => ⟨trivial, hok x w hm⟩) herror).mono
    (fun _ _ h => h.2) fun _ => id

/-! ### Steps -/

/-- Making room for a slot. -/
theorem room (h : Runs κ s₀ D s) (hn : n ∈ s₀.graph.nodes) (hkind : n.action.kind ≠ .streamOut)
    (hslot : slot ∈ n.action.slots) (stage : Stage) :
    Ends (fun _ s' => Runs κ s₀ (fun x => D x ∨ x = slot) s') (n.action.Fails node)
      (Graph.inNode node stage (Workspace.ensureAllocated slot) s) := by
  have hw := h.healthy.sound.workspace
  refine h.inNode_memory (W := fun _ => False) (Workspace.follows_ensureAllocated slot _) ?_ ?_
  · intro u w hm
    obtain ⟨hserves, -, ⟨-, -, hblock⟩ | ⟨⟨_, hr⟩, -⟩⟩ := Workspace.ensureAllocated_inv hw hm
    · rintro x (hx | rfl)
      · obtain ⟨b, hb⟩ := h.memory x hx
        exact ⟨b, hserves.bytes x b not_false hb⟩
      · obtain ⟨id, hid⟩ := hblock (h.has hn hslot)
        obtain ⟨b, hb, -⟩ := hserves.sound.lends hid
        exact ⟨_, Workspace.deviceBytes_of_lends hid hb⟩
    · cases hr
  · intro e he
    obtain ⟨requested, available, rfl⟩ := Workspace.ensureAllocated_error hw he
    exact .memory hkind hslot he

/-- A copy to a slot that has memory does not fail. -/
theorem upload (h : Runs κ s₀ D s) (hD : D slot) (stage : Stage) :
    Ends (fun _ s' => Runs κ s₀ D s') E (Graph.inNode node stage (Workspace.upload slot) s) := by
  have hw := h.healthy.sound.workspace
  obtain ⟨w', hup⟩ := hw.upload_ok (h.healthy.quiet .upload) (h.memory slot hD)
  refine h.inNode_memory (W := fun _ => False) (Workspace.follows_upload slot _) ?_ ?_
  · intro u w hm x hx
    by_cases he : x = slot
    · exact ⟨_, he ▸ Workspace.deviceBytes_of_upload hw hm⟩
    · obtain ⟨b, hb⟩ := h.memory x hx
      exact ⟨b, (Workspace.upload_inv hw hm).1.bytes x b he hb⟩
  · intro e he
    rw [hup] at he
    cases he

/-- A copy from a slot that has memory does not fail. -/
theorem download (h : Runs κ s₀ D s) (hD : D slot) (stage : Stage) :
    Ends (fun _ s' => Runs κ s₀ D s') E (Graph.inNode node stage (Workspace.download slot) s) := by
  have hw := h.healthy.sound.workspace
  obtain ⟨w', hdown⟩ := hw.download_ok (h.healthy.quiet .download) (h.memory slot hD)
  refine h.inNode_memory (W := fun _ => False) (Workspace.follows_download slot _) ?_ ?_
  · intro u w hm x hx
    obtain ⟨b, hb⟩ := h.memory x hx
    exact ⟨b, (Workspace.download_inv hw hm).1.bytes x b not_false hb⟩
  · intro e he
    rw [hdown] at he
    cases he

/-- Waiting for the device does not fail. -/
theorem wait (h : Runs κ s₀ D s) (stage : Stage) :
    Ends (fun _ s' => Runs κ s₀ D s') E
      (Graph.inNode node stage (Workspace.onDevice Device.synchronize) s) := by
  refine h.inNode_memory (W := fun _ => False) (Workspace.follows_synchronize _) ?_ ?_
  · intro u w hm x hx
    obtain rfl : (Workspace.onDevice Device.synchronize s.workspace).2 = w :=
      congrArg Prod.snd hm
    exact h.healthy.sound.workspace.bytes_withDevice
      (Device.synchronize_changes (fun _ => False) _) (h.memory x hx)
  · intro e he
    have hcall : Device.call .synchronize s.workspace.device =
        (.ok (), s.workspace.device.counted .synchronize) :=
      Device.call_of_quiet (h.healthy.quiet .synchronize)
    rw [Workspace.onDevice_apply, Device.synchronize, hcall] at he
    cases he

/-- On the host, a kernel is compiled unless its space does not go with its parameters. -/
theorem compile {k : Kernel} {args : List TaskArg} (h : Runs κ s₀ D s) (hk : κ k.id = k) :
    Ends (fun p s' => (p.kernel = k ∧ k.space.validate k.params = .ok ()) ∧ Runs κ s₀ D s')
      ((Action.task k args).Fails node)
      (Graph.inNode node .launch (Workspace.onContext (Context.compile k)) s) := by
  have hprograms := h.healthy.sound.programs
  have htarget : k.compilable s.machine.context.device.target =
      (k.space.validate k.params).mapError fun e => .compilation k.name e.message := by
    rw [h.healthy.target, k.compilable_cpu]
  rcases hc : Context.compile k s.machine.context with ⟨r, c⟩
  obtain ⟨-, hdevice, hr⟩ := Context.compile_inv hprograms hk hc
  rw [htarget] at hr
  have happly : Workspace.onContext (Context.compile k) s.workspace =
      (r, ⟨⟨s.machine.hosts, c⟩, s.graph.table⟩) := by
    rw [Workspace.onContext, on_apply]
    exact congrArg (fun x : Except DeviceError Program × Context =>
      (x.1, (⟨⟨s.machine.hosts, x.2⟩, s.graph.table⟩ : Workspace))) hc
  refine h.inNode (W := fun _ => False) (Workspace.follows_compile hk _) ?_ ?_
  · intro p w hm
    rw [happly] at hm
    obtain ⟨p', hp', hkernel, hvalid⟩ | ⟨e, he, -⟩ := hr
    · subst hp'
      cases hm
      refine ⟨⟨hkernel, ?_⟩, fun x hx => ?_⟩
      · rcases hv : k.space.validate k.params with e | u <;> rw [hv] at hvalid
        cases hvalid
      · obtain ⟨b, hb⟩ := h.memory x hx
        refine ⟨b, ?_⟩
        rw [Workspace.deviceBytes] at hb ⊢
        rw [show Workspace.pool ⟨⟨s.machine.hosts, c⟩, s.graph.table⟩ = s.workspace.pool from
          congrArg Device.pool hdevice]
        exact hb
    · subst he
      cases hm
  · intro e he
    rw [happly] at he
    obtain ⟨p', rfl, -⟩ | ⟨e', rfl, hinvalid⟩ := hr
    · cases he
    · cases he
      rcases hv : k.space.validate k.params with x | u <;> rw [hv] at hinvalid
      · cases hinvalid
        exact .compilation hv
      · cases hinvalid

/-! ### Copies -/

/-- Making room for slots of a node, one after the other. -/
theorem makeRoom (h : Runs κ s₀ D s) (hn : n ∈ s₀.graph.nodes)
    (hkind : n.action.kind ≠ .streamOut) (node : String) (stage : Stage) {slots : List SlotId}
    (hslots : ∀ slot ∈ slots, slot ∈ n.action.slots) :
    Ends (fun _ s' => Runs κ s₀ (fun x => D x ∨ x ∈ slots) s') (n.action.Fails node)
      (Step.each slots (fun slot => do
        let _ ← Graph.inNode node stage (Workspace.ensureAllocated slot)) s) := by
  induction slots generalizing D s with
  | nil => exact .ok (h.mono fun x hx => hx.resolve_right List.not_mem_nil)
  | cons slot r ih =>
    have hfirst : Ends (fun (_ : Unit) s' => Runs κ s₀ (fun x => D x ∨ x = slot) s')
        (n.action.Fails node) ((Graph.inNode node stage (Workspace.ensureAllocated slot) >>=
          fun _ => pure ()) s) :=
      (h.room hn hkind (hslots slot List.mem_cons_self) stage).bind fun _ _ h₁ => .ok h₁
    refine hfirst.bind fun _ s₁ h₁ => ?_
    exact (ih h₁ fun x hx => hslots x (List.mem_cons_of_mem _ hx)).mono
      (fun _ _ h₂ => h₂.cons) fun _ => id

/-- Copies to slots of a node. -/
theorem transferIn (h : Runs κ s₀ D s) (hn : n ∈ s₀.graph.nodes)
    (hkind : n.action.kind ≠ .streamOut) (node : String) (always : Bool) {slots : List SlotId}
    (hslots : ∀ slot ∈ slots, slot ∈ n.action.slots) :
    Ends (fun _ s' => Runs κ s₀ (fun x => D x ∨ x ∈ slots) s') (n.action.Fails node)
      (Graph.transferIn node always slots s) := by
  induction slots generalizing D s with
  | nil => exact .ok (h.mono fun x hx => hx.resolve_right List.not_mem_nil)
  | cons slot r ih =>
    have hrest : ∀ {s₁ : Site}, Runs κ s₀ (fun x => D x ∨ x = slot) s₁ →
        Ends (fun _ s' => Runs κ s₀ (fun x => D x ∨ x ∈ slot :: r) s') (n.action.Fails node)
          (Graph.transferIn node always r s₁) := fun h₁ =>
      (ih h₁ fun x hx => hslots x (List.mem_cons_of_mem _ hx)).mono
        (fun _ _ h₂ => h₂.cons) fun _ => id
    refine (h.room hn hkind (hslots slot List.mem_cons_self) .transfer).bind fun _ s₁ h₁ => ?_
    rw [bind_apply, get_apply]
    dsimp only
    split
    · refine (h₁.upload (.inr rfl) .transfer).bind fun _ s₂ h₂ => ?_
      rw [bytesIn_bind]
      exact (hrest h₂).bind fun _ _ h₃ => .ok h₃
    · exact hrest h₁

/-- Copies from slots that have memory. -/
theorem transferOut (h : Runs κ s₀ D s) {slots : List SlotId} (hD : ∀ slot ∈ slots, D slot) :
    Ends (fun _ s' => Runs κ s₀ D s') E (Graph.transferOut node slots s) := by
  induction slots generalizing s with
  | nil => exact .ok h
  | cons slot r ih =>
    refine (h.download (hD slot List.mem_cons_self) .transfer).bind fun _ s₁ h₁ => ?_
    rw [bytesIn_bind]
    exact (ih h₁ fun x hx => hD x (List.mem_cons_of_mem _ hx)).bind fun _ _ h₂ => .ok h₂

/-! ### Launches -/

/-- Where all slots of a task have memory, its kernel can be given what it takes. -/
theorem given (k : Kernel) (args : List TaskArg) (h : Runs κ s₀ D s)
    (hD : ∀ slot ∈ (Action.task k args).slots, D slot) :
    ∃ given, args.mapM (launchArg s.graph.table) = .ok given :=
  exists_given (k := k) (w := s.workspace) fun slot hslot => h.memory slot (hD slot hslot)

/-- The device accepts what the kernel of a task is given. -/
theorem checkArgs {k : Kernel} {args : List TaskArg} {given : List LaunchArg}
    (h : Runs κ s₀ D s) (hn : n ∈ s₀.graph.nodes) (ha : n.action = .task k args)
    (hgiven : args.mapM (launchArg s.graph.table) = .ok given) : k.checkArgs given = .ok () := by
  have htyped := h.healthy.typed n (h.nodes ▸ hn)
  rw [ha] at htyped
  exact htyped.checkArgs h.healthy.sound.workspace hgiven

/-- A kernel that was compiled fails for an extent that is out of range, or with what its body
raises. -/
theorem deviceLaunch {k : Kernel} {args : List TaskArg} {given : List LaunchArg}
    (h : Runs κ s₀ D s) (hn : n ∈ s₀.graph.nodes) (ha : n.action = .task k args)
    (hgiven : args.mapM (launchArg s.graph.table) = .ok given)
    (hvalid : k.space.validate k.params = .ok ()) :
    Ends (fun _ s' => Runs κ s₀ D s') ((Action.task k args).Fails node)
      (Graph.inNode node .launch (Workspace.onDevice (Device.launch k given)) s) := by
  have hw := h.healthy.sound.workspace
  refine h.inNode_memory (W := (Action.task k args).Writes)
    (Workspace.progress_launch (fun _ => id) hgiven) ?_ ?_
  · intro g w hm x hx
    obtain rfl : (Workspace.onDevice (Device.launch k given) s.workspace).2 = w :=
      congrArg Prod.snd hm
    exact hw.bytes_withDevice (Device.launch_changes _ k given) (h.memory x hx)
  · intro e he
    have hcheck := h.checkArgs hn ha hgiven
    rcases Device.launch_error (h.healthy.quiet .launch) hvalid hcheck (hw.ready hgiven) he with
      ⟨x, hx, why, ⟨i, v, rfl, hv, hmisfit⟩, rfl⟩ | ⟨halt, hraises, rfl⟩
    · -- what is given as a scalar was passed as one
      obtain ⟨arg, harg, hlaunch⟩ := getElem?_of_mapM hgiven hv
      cases arg with
      | scalar v' =>
        cases hlaunch
        exact .extent hx harg hmisfit
      | slot slot =>
        obtain ⟨a, -, hbuffer⟩ := Workspace.launchArg_slot hlaunch
        cases hbuffer
    · exact .body hraises

end Site.Runs

/-! ### Nodes -/

namespace Graph

/-- Everything that comes before a launch on the device: room for the slots, the program, and what
its kernel is given. -/
def prepare (node : String) (k : Kernel) (args : List TaskArg) :
    Step GraphError Site (Program × List LaunchArg) := do
  Step.each (Action.task k args).slots fun slot => do
    let _ ← inNode node .launch (Workspace.ensureAllocated slot)
  let p ← inNode node .launch (Workspace.onContext (Context.compile k))
  let table := (← get).graph.table
  let given ← (Step.lift (args.mapM (launchArg table))).mapError (nodeError node .launch)
  return (p, given)

/-- A task is prepared, and then it reaches the device. -/
theorem launch_eq_prepare (node : String) (k : Kernel) (args : List TaskArg) :
    launch node k args = prepare node k args >>= fun x =>
      inNode node .launch (Workspace.onDevice (Device.launch x.1.kernel x.2)) >>= fun _ =>
        pure () := by
  simp only [launch, prepare, bind_assoc, pure_bind]

end Graph

namespace Site.Runs

open Offload.Graph

variable {κ : KernelId → Kernel} {s₀ s : Site} {D : SlotId → Prop} {n : Node}

/-- A task of the graph reaches the device with its own kernel, which was compiled, and with
arguments that go with its slots. -/
theorem prepare {k : Kernel} {args : List TaskArg} (h : Runs κ s₀ D s) (hn : n ∈ s₀.graph.nodes)
    (ha : n.action = .task k args) (node : String) :
    Ends (fun x s' => (x.1.kernel = k ∧ k.space.validate k.params = .ok () ∧
        args.mapM (launchArg s'.graph.table) = .ok x.2) ∧
        Runs κ s₀ (fun x => D x ∨ x ∈ (Action.task k args).slots) s')
      ((Action.task k args).Fails node) (Graph.prepare node k args s) := by
  have hknown := h.healthy.sound.known n (h.nodes ▸ hn)
  have hroom := h.makeRoom hn (by rw [ha]; nofun) node .launch fun _ => id
  rw [ha] at hknown hroom
  refine hroom.bind fun _ s₁ h₁ => ?_
  refine (h₁.compile hknown).bind fun p s₂ h₂ => ?_
  obtain ⟨⟨hkernel, hvalid⟩, h₂⟩ := h₂
  obtain ⟨given, hgiven⟩ := h₂.given k args fun _ => .inr
  rw [bind_apply, get_apply]
  dsimp only
  rw [hgiven]
  exact .ok ⟨⟨hkernel, hvalid, hgiven⟩, h₂⟩

/-- A task makes room for its slots and keeps it. -/
theorem launch {k : Kernel} {args : List TaskArg} (h : Runs κ s₀ D s) (hn : n ∈ s₀.graph.nodes)
    (ha : n.action = .task k args) (node : String) :
    Ends (fun _ s' => Runs κ s₀ (fun x => D x ∨ x ∈ (Action.task k args).slots) s')
      ((Action.task k args).Fails node) (Graph.launch node k args s) := by
  rw [launch_eq_prepare]
  refine (h.prepare hn ha node).bind fun x s₁ h₁ => ?_
  obtain ⟨⟨hkernel, hvalid, hgiven⟩, h₁⟩ := h₁
  rw [hkernel]
  exact (h₁.deviceLaunch hn ha hgiven hvalid).bind fun _ _ h₂ => .ok h₂

/-- A node that finds memory for what it needs leaves memory for all its slots. -/
theorem perform (h : Runs κ s₀ D s) (hn : n ∈ s₀.graph.nodes)
    (hneeds : ∀ slot, n.action.Needs slot → D slot) (node : String) :
    Ends (fun _ s' => Runs κ s₀ (fun x => D x ∨ x ∈ n.action.slots) s') (n.action.Fails node)
      (Graph.perform node n.action s) := by
  cases ha : n.action with
  | streamIn slots =>
    have hslots : ∀ slot ∈ slots, slot ∈ n.action.slots := fun slot hslot => by rwa [ha]
    have hin := h.transferIn hn (by rw [ha]; nofun) node true hslots
    rwa [ha] at hin
  | copyIn slots =>
    have hslots : ∀ slot ∈ slots, slot ∈ n.action.slots := fun slot hslot => by rwa [ha]
    have hin := h.transferIn hn (by rw [ha]; nofun) node false hslots
    rwa [ha] at hin
  | task k args =>
    exact (h.launch hn ha node).bind fun _ _ h' => .ok h'
  | streamOut slots =>
    rw [ha] at hneeds
    refine (h.transferOut hneeds).mono (fun _ s' h' => h'.mono fun x hx => ?_) fun _ => id
    exact hx.elim id (hneeds x)
  | barrier =>
    refine (h.wait .launch).bind fun _ s' h' => .ok (h'.mono fun x hx => ?_)
    exact hx.resolve_right List.not_mem_nil

end Site.Runs

/-! ### Runs -/

namespace Site.Runs

open Offload.Graph

variable {κ : KernelId → Kernel} {s₀ s : Site} {D : SlotId → Prop}

/-- Nodes in order, each of which finds what it needs. Afterwards all their slots have memory. -/
theorem each {ns : List Node} (run : Nat) (h : Runs κ s₀ D s)
    (hns : ∀ n ∈ ns, n ∈ s₀.graph.nodes) (hord : Ordered D ns) :
    Ends (fun _ s' => Runs κ s₀ (fun x => D x ∨ ∃ m ∈ ns, x ∈ m.action.slots) s')
      (fun e => ∃ n ∈ ns, n.action.Fails (s₀.graph.qualified n.name) e)
      (Step.each ns (runNode run) s) := by
  -- `D` grows by the slots of each node, and `hord` says that this is enough for the next
  induction ns generalizing D s with
  | nil => exact .ok (h.mono fun x hx => hx.resolve_right (by simp))
  | cons n r ih =>
    have hnode : Ends (fun _ s' => Runs κ s₀ (fun x => D x ∨ x ∈ n.action.slots) s')
        (n.action.Fails (s₀.graph.qualified n.name)) (runNode run n s) := by
      have hname : s.graph.qualified n.name = s₀.graph.qualified n.name := by
        rw [qualified, qualified, h.name]
      rw [runNode_apply, hname]
      refine (h.perform (hns n List.mem_cons_self) hord.1 _).bind fun bytes s₁ h₁ => .ok ?_
      exact h₁.withGraph ⟨fun _ => rfl, fun _ => rfl, fun _ => rfl, fun _ h => h⟩
    refine (hnode.mono (fun _ _ h => h) fun e he => ⟨n, List.mem_cons_self, he⟩).bind ?_
    intro _ s₁ h₁
    refine (ih h₁ (fun m hm => hns m (List.mem_cons_of_mem _ hm)) hord.2).mono
      (fun _ s₂ h₂ => h₂.mono fun x hx => ?_) fun e he => ?_
    · rw [or_assoc]
      simpa using hx
    · obtain ⟨m, hm, he⟩ := he
      exact ⟨m, List.mem_cons_of_mem _ hm, he⟩

end Site.Runs

namespace Graph

/-- A run of the graph of `s` comes to a node: the nodes before it were carried out, which has
led to `s₁`. -/
def Reaches (s : Site) (n : Node) (s₁ : Site) : Prop :=
  ∃ before after, s.graph.nodes = before ++ n :: after ∧
    Step.each before (runNode (s.graph.runs + 1)) (s.withGraph ({ · with phase := .executing })) =
      (.ok (), s₁)

end Graph

namespace Site.Healthy

open Offload.Graph

variable {κ : KernelId → Kernel} {s s₁ : Site} {n : Node}

/-- In the beginning no memory is taken for granted. -/
theorem runs (hs : s.Healthy κ) :
    Runs κ s (fun _ => False) (s.withGraph ({ · with phase := .executing })) :=
  (show Runs κ s (fun _ => False) s from ⟨hs, rfl, rfl, nofun⟩).withGraph (minor_phase nofun)

/-- When a run comes to a node, there is memory for what the node needs. -/
theorem reaches (hs : s.Healthy κ) (h : Reaches s n s₁) :
    n ∈ s.graph.nodes ∧ Runs κ s n.action.Needs s₁ := by
  obtain ⟨before, after, hnodes, hrun⟩ := h
  have hord := hs.sound.built.ordered
  rw [hnodes] at hord
  obtain ⟨hbefore, hn, -⟩ := ordered_append.mp hord
  have hends := hs.runs.each (s.graph.runs + 1)
    (fun m hm => hnodes ▸ List.mem_append_left _ hm) hbefore
  rw [hrun] at hends
  exact ⟨hnodes ▸ List.mem_append_right _ List.mem_cons_self, hends.of_ok.mono hn⟩

/-- A run fails only as one of its nodes may fail. -/
theorem execute_error (hs : s.Healthy κ) (hlive : s.graph.phase ≠ .disposed) {e : GraphError}
    (h : (execute s).1 = .error e) :
    ∃ n ∈ s.graph.nodes, n.action.Fails (s.graph.qualified n.name) e := by
  have hall : Ends (fun _ _ => True)
      (fun e => ∃ n ∈ s.graph.nodes, n.action.Fails (s.graph.qualified n.name) e)
      (runAll (s.graph.runs + 1) (s.withGraph ({ · with phase := .executing }))) := by
    rw [runAll_apply]
    refine (hs.runs.each _ (fun _ hn => hn) hs.sound.built.ordered).bind fun _ s₁ h₁ => ?_
    exact (h₁.wait .launch).mono (fun _ _ _ => trivial) fun _ => id
  rw [execute_apply, if_neg hlive] at h
  rcases hrun : runAll (s.graph.runs + 1) (s.withGraph ({ · with phase := .executing })) with
    ⟨e' | u, s'⟩ <;> rw [hrun] at h
  · cases h
    exact hall.of_error (congrArg Prod.fst hrun)
  · cases h

/-- When a run comes to a copy to the device, it fails only for want of memory. -/
theorem transferIn_error (hs : s.Healthy κ) (h : Reaches s n s₁) {slots : List SlotId}
    (ha : n.action = .streamIn slots ∨ n.action = .copyIn slots) {node : String} {e : GraphError}
    (he : (perform node n.action s₁).1 = .error e) :
    ∃ requested available,
      e = .deviceOutOfMemory node (.outOfMemory requested available) := by
  obtain ⟨hn, hruns⟩ := hs.reaches h
  have hfails := (hruns.perform hn (fun _ => id) node).of_error he
  rcases ha with ha | ha <;> rw [ha] at hfails <;> cases hfails <;> exact ⟨_, _, rfl⟩

/-- When a run comes to a copy to the host, it does not fail. -/
theorem transferOut_ok (hs : s.Healthy κ) (h : Reaches s n s₁) {slots : List SlotId}
    (ha : n.action = .streamOut slots) (node : String) (e : GraphError) :
    (perform node n.action s₁).1 ≠ .error e := by
  intro he
  obtain ⟨hn, hruns⟩ := hs.reaches h
  have hfails := (hruns.perform hn (fun _ => id) node).of_error he
  rw [ha] at hfails
  cases hfails with
  | memory hkind hslot h => exact hkind rfl

/-- When a run comes to a task and the task reaches the device, the device accepts what the kernel
is given; it finds a buffer wherever a length is to be taken, and not too many dimensions. -/
theorem task_accepted (hs : s.Healthy κ) (h : Reaches s n s₁) {k : Kernel} {args : List TaskArg}
    (ha : n.action = .task k args) {node : String} {p : Program} {given : List LaunchArg}
    {s₂ : Site} (hp : prepare node k args s₁ = (.ok (p, given), s₂)) :
    p.kernel = k ∧ k.checkArgs given = .ok () ∧
      (∀ i, k.space.resolve given ≠ .error (.notBuffer i)) ∧
      k.space.resolve given ≠ .error .tooManyDimensions := by
  obtain ⟨hn, hruns⟩ := hs.reaches h
  have hends := hruns.prepare hn ha node
  rw [hp] at hends
  obtain ⟨⟨hkernel, hvalid, hgiven⟩, h₂⟩ := hends.of_ok
  have hcheck := h₂.checkArgs hn ha hgiven
  refine ⟨hkernel, hcheck, fun i he => ?_, fun he => ?_⟩ <;>
    obtain ⟨_, _, _, _, _, _, hmisfit⟩ := Space.resolve_error hvalid hcheck he <;> cases hmisfit

end Site.Healthy

/-! ### Fleets -/

/-- A kernel that does nothing, for as many work items as it is told. -/
def Kernel.span (id : KernelId) : Kernel :=
  ⟨id, "span", [.scalar .int32], ⟨[.scalar 0]⟩, fun _ => .done⟩

namespace Fleet

variable {ι δ : Type} [DecidableEq ι] [DecidableEq δ] {κ : KernelId → Kernel} {f : Fleet ι δ}
  {u : ι}

/-- Whatever was asked of a fleet, a graph on a device of the host that does not fail is in good
order. -/
theorem Reachable.healthy (h : Reachable κ f)
    (htarget : (f.context (f.home u)).device.target = .cpu)
    (hquiet : ∀ c n, (f.context (f.home u)).device.faults c n = false) :
    (f.site u).Healthy κ := ⟨h.sound.site u, h.typed u, htarget, hquiet⟩

/-- Whatever was asked of a fleet, what was checked when a graph was built is enough for its next
run, on a device of the host that does not fail by then. Copies to the device fail only for want
of memory, and copies to the host do not fail. The device accepts what kernels are given, and
neither misses a buffer nor finds too many dimensions when it looks for their grids. The run fails
only as `Action.Fails` says. -/
theorem execute_safe (h : Reachable κ f) (htarget : (f.context (f.home u)).device.target = .cpu)
    (hquiet : ∀ c n, (f.context (f.home u)).device.faults c n = false)
    (hlive : (f.graph u).phase ≠ .disposed) :
    (∀ n s₁ node, Graph.Reaches (f.site u) n s₁ →
      (∀ slots, n.action = .streamIn slots ∨ n.action = .copyIn slots →
        ∀ e, (Graph.perform node n.action s₁).1 = .error e → ∃ requested available,
          e = .deviceOutOfMemory node (.outOfMemory requested available)) ∧
      (∀ slots, n.action = .streamOut slots →
        ∀ e, (Graph.perform node n.action s₁).1 ≠ .error e) ∧
      (∀ k args, n.action = .task k args →
        ∀ p given s₂, Graph.prepare node k args s₁ = (.ok (p, given), s₂) →
          p.kernel = k ∧ k.checkArgs given = .ok () ∧
          (∀ i, k.space.resolve given ≠ .error (.notBuffer i)) ∧
          k.space.resolve given ≠ .error .tooManyDimensions)) ∧
    ∀ e, (Graph.execute (f.site u)).1 = .error e →
      ∃ n ∈ (f.graph u).nodes, n.action.Fails ((f.graph u).qualified n.name) e := by
  have hs := h.healthy htarget hquiet
  refine ⟨?_, fun e => hs.execute_error hlive⟩
  intro n s₁ node hreaches
  refine ⟨?_, ?_, ?_⟩
  · intro slots ha e he
    exact hs.transferIn_error hreaches ha he
  · intro slots ha e
    exact hs.transferOut_ok hreaches ha node e
  · intro k args ha p given s₂ hp
    exact hs.task_accepted hreaches ha hp

/-- A buffer is to be copied to the device. The first run cannot copy; then another buffer takes
its place. The task is told to run for minus one work items, which its launch finds out. -/
theorem execute_safe_span :
    let f₀ := single "g" none
      [.filled (.scalar .uint8) 2 (1 : UInt8), .filled (.scalar .uint8) 3 (2 : UInt8)]
    let rs : List (Request Unit Unit) := [
      .call () (.streamIn [⟨0⟩]), .call () (.task "t" (.span ⟨0⟩) [.scalar ⟨.int32, -1⟩]),
      .configure () (fun c _ => c == .upload) none, .call () .execute,
      .call () (.rebind ⟨0⟩ ⟨1⟩), .configure () (fun _ _ => false) none]
    let f := (performAll rs f₀).2
    let e := GraphError.launchFailure "g.t" (.launch "span" (ExtentError.negative 0).message)
    Reachable Kernel.span f ∧ (f.graph ()).phase ≠ .disposed ∧
      (Graph.execute (f.site ())).1 = .error e ∧
      ∃ n ∈ (f.graph ()).nodes, n.action.Fails ((f.graph ()).qualified n.name) e := by
  intro f₀ rs f e
  have h₀ : Start f₀ := start_single
  have hr : ValidAll Kernel.span rs f₀ := by
    have hmade : f₀.hosts.Has ⟨0⟩ ∧ f₀.hosts.Has ⟨1⟩ := by simp [HostMemory.Has, f₀, single]
    refine h₀.sound.validAll ?_
    simp only [rs, List.forall_mem_cons]
    refine ⟨⟨?_, ?_⟩, ⟨?_, ?_⟩, trivial, ⟨?_, ?_⟩, ⟨?_, ?_⟩, trivial, ?_⟩
    · simp [Command.buffers, hmade]
    · rintro name k args ⟨⟩
    · simp [Command.buffers, Graph.argBuffers]
    · rintro name k args ⟨⟩
      rfl
    · simp [Command.buffers]
    · rintro name k args ⟨⟩
    · simp [Command.buffers, hmade]
    · rintro name k args ⟨⟩
    · simp
  have hf : Reachable Kernel.span f := ⟨f₀, rs, h₀, hr, rfl⟩
  have hlive : (f.graph ()).phase ≠ .disposed := by decide
  have he : (Graph.execute (f.site ())).1 = .error e := by decide +kernel
  exact ⟨hf, hlive, he, (execute_safe (u := ()) hf (by decide) (fun _ _ => rfl) hlive).2 e he⟩

end Fleet

end Offload
