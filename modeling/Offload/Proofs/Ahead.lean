import Offload.Proofs.Preparation

/-!
# Running ahead

A workspace may be ahead of another one by some preparations: it is where the other one will be as
soon as they were seen to. What both do then may be done before or after the preparations, as long
as it keeps to slots that have device memory already.

* `Workspace.Retains` — what was seen to stays so.
* `Workspace.Ahead` — one workspace is ahead of another one; `Workspace.veil_ahead` says that this
  is hard to tell.
* `Workspace.ahead_of_prepare` — whoever sees to preparations is ahead by them.
* `Graph.ahead_of_warmup` — so is a graph whose memory was allocated and whose kernels were compiled
  in advance.
-/

namespace Offload

open Step

namespace Workspace

open Preparation

variable {w w' w'' v : Workspace} {s : SlotId} {p : Preparation} {ps qs : List Preparation}

/-! ### What stays -/

/-- What was seen to stays so. -/
def Retains (w w' : Workspace) : Prop := ∀ p, Done w p → Done w' p

namespace Retains

theorem refl (w : Workspace) : Retains w w := fun _ h => h

theorem trans (h : Retains w w') (h' : Retains w' w'') : Retains w w'' :=
  fun p hp => h' p (h p hp)

/-- The programs are there, and the slots have the memory that they had. -/
theorem of_slots (ht : w'.device.target = w.device.target)
    (hp : ∀ key q, w.machine.context.program? key = some q →
      w'.machine.context.program? key = some q)
    (hs : ∀ s id, w.table.block? s = some id → w'.table.block? s = some id) : Retains w w' := by
  rintro (s | k)
  · rintro ⟨id, hid⟩
    exact ⟨id, hs s id hid⟩
  · rintro ⟨q, hq⟩
    refine ⟨q, ?_⟩
    rw [key, ht]
    exact hp _ q hq

theorem withDevice {d : Device} (ht : d.target = w.device.target) : Retains w (w.withDevice d) :=
  of_slots ht (fun _ _ h => h) fun _ _ h => h

theorem setSynced (w : Workspace) (s : SlotId) (n : Nat) :
    Retains w (w.setSlot s { w.table.get s with synced := some n }) :=
  of_slots rfl (fun _ _ h => h) fun s' _ h => (SlotTable.block?_set (by rfl) s').trans h

theorem setHost (w : Workspace) (s : SlotId) (b : HostBuffer) : Retains w (w.setHost s b) :=
  of_slots rfl (fun _ _ h => h) fun _ _ h => h

theorem onDevice {α : Type} {m : Step DeviceError Device α} {B : BlockId → Prop}
    (h : Device.Changes B w.device (m w.device).2) : Retains w (onDevice m w).2 :=
  withDevice h.target

theorem ensureAllocated (s : SlotId) (w : Workspace) : Retains w (ensureAllocated s w).2 := by
  rw [ensureAllocated_apply]
  split
  · exact refl w
  · rename_i hnone
    rcases hp : w.pool.alloc (w.host s).byteLen true with ⟨e | id, q⟩ <;> rw [allocate_of_alloc hp]
    · exact withDevice rfl
    · refine of_slots rfl (fun _ _ h => h) fun s' id' hid' => ?_
      have hne := ne_of_block? (by simpa using hnone) hid'
      exact (congrArg (fun x : Slot => x.allocation.bind Allocation.block)
        (SlotTable.get_set_ne hne)).trans hid'

theorem serviced (s : SlotId) : Serviced Retains s where
  trans _ _ _ := trans
  device _ _ hd := withDevice hd.target
  synced w := setSynced w s

theorem upload (s : SlotId) (w : Workspace) : Retains w (upload s w).2 :=
  (serviced s).upload (ensureAllocated s w)

theorem download (s : SlotId) (w : Workspace) : Retains w (download s w).2 :=
  (serviced s).download refl (fun w => setHost w s) w

theorem compile (k : Kernel) (w : Workspace) : Retains w (onContext (Context.compile k) w).2 := by
  rw [compile_apply]
  rcases hq : w.machine.context.program? (w.key k) with _ | q
  · dsimp only
    rcases hk : k.compilable w.device.target with e | u
    · exact of_slots rfl (fun _ _ h => h) fun _ _ h => h
    · exact of_slots rfl ((veil_after (.program k)).program _ _ · · (.compiled hq hk))
        fun _ _ h => h
  · exact refl w

end Retains

/-! ### What runs ahead -/

variable {R : Workspace → Workspace → Prop}

/-- `v` is what `w` will be, as far as `R` can tell, once the preparations were seen to. -/
def Ahead (R : Workspace → Workspace → Prop) : List Preparation → Workspace → Workspace → Prop
  | [] => R
  | p :: ps => fun w v => ∃ w₁, p.After w w₁ ∧ Ahead R ps w₁ v

/-- Nothing is hidden. -/
theorem veil_eq : Veil Eq where
  hosts _ _ h := h ▸ rfl
  target _ _ h := h ▸ rfl
  faults _ _ h := h ▸ rfl
  tally _ _ h := h ▸ rfl
  program _ _ _ _ h hq := h ▸ hq
  slot _ _ _ _ h _ := h ▸ rfl
  block _ _ _ h _ := h ▸ rfl
  edit _ _ _ h _ := h ▸ rfl
  setHost _ _ _ _ _ h _ _ _ := h ▸ rfl
  setSynced _ _ _ _ _ h _ := h ▸ rfl

/-- Nobody who keeps to slots that have device memory can tell who is ahead. -/
theorem veil_ahead (hR : Veil R) (ps : List Preparation) : Veil (Ahead R ps) := by
  induction ps with
  | nil => exact hR
  | cons p ps ih => exact (veil_after p).comp ih

/-- What was seen to behind the veil was seen to. -/
theorem Veil.done (hR : Veil R) (h : R w v) (hp : Done w p) : Done v p := by
  cases p with
  | room s =>
    obtain ⟨id, hid⟩ := hp
    exact ⟨id, hR.block? h hid⟩
  | program k =>
    obtain ⟨q, hq⟩ := hp
    refine ⟨q, ?_⟩
    rw [key, hR.target w v h]
    exact hR.program w v _ q h hq

namespace Ahead

/-- There is no need to see to anything again. -/
theorem settle (h : Ahead R (ps ++ qs) w v) (hd : ∀ p ∈ ps, Done w p) : Ahead R qs w v := by
  induction ps with
  | nil => exact h
  | cons p ps ih =>
    obtain ⟨w₁, hp, h⟩ := h
    obtain rfl := hp.eq_of_done (hd p List.mem_cons_self)
    exact ih h fun q hq => hd q (List.mem_cons_of_mem _ hq)

/-- Where everything was seen to, nobody is ahead. -/
theorem iff_of_done (hd : ∀ p ∈ ps, Done w p) : Ahead R ps w v ↔ R w v := by
  constructor
  · intro h
    rw [← List.append_nil ps] at h
    exact h.settle hd
  · intro h
    induction ps with
    | nil => exact h
    | cons p ps ih =>
      exact ⟨w, .refl (hd p List.mem_cons_self), ih fun q hq => hd q (List.mem_cons_of_mem _ hq)⟩

/-- Whoever has a block on loan keeps it. -/
theorem keeps (h : Ahead Eq ps w v) : Pool.Keeps w.pool v.pool := by
  induction ps generalizing w with
  | nil =>
    obtain rfl : w = v := h
    exact .refl _
  | cons p ps ih =>
    obtain ⟨w₁, hp, h⟩ := h
    exact hp.keeps.trans (ih h)

theorem done (h : Ahead Eq ps w v) : ∀ p ∈ ps, Done v p := by
  induction ps generalizing w with
  | nil => exact nofun
  | cons p ps ih =>
    obtain ⟨w₁, hp, h⟩ := h
    refine List.forall_mem_cons.mpr ⟨(veil_ahead veil_eq ps).done h hp.done, ih h⟩

end Ahead

/-! ### Seeing to preparations -/

variable {κ : KernelId → Kernel}

/-- What is to be compiled has its identity to itself, and what is to have memory is a slot. -/
def Expects (κ : KernelId → Kernel) (w : Workspace) : Preparation → Prop
  | .room s => w.table.Has s
  | .program k => κ k.id = k

theorem follows_prepare {W : SlotId → Prop} (hp : w.Expects κ p) :
    Follows (Progress κ W) p.prepare := by
  cases p with
  | room s => exact (follows_ensureAllocated s).bind (fun _ _ _ => .trans) fun _ => .pure .refl ()
  | program k => exact (follows_compile hp).bind (fun _ _ _ => .trans) fun _ => .pure .refl ()

/-- Whoever sees to preparations is ahead by them. -/
theorem ahead_of_prepare (hw : w.Sound) (hc : w.machine.context.Faithful κ)
    (hps : ∀ p ∈ ps, w.Expects κ p) (h : Step.each ps prepare w = (.ok (), v)) :
    Ahead Eq ps w v := by
  induction ps generalizing w with
  | nil => exact congrArg Prod.snd h
  | cons p ps ih =>
    obtain ⟨u, w₁, hp, hrest⟩ := bind_eq_ok h
    have hfirst := hps p List.mem_cons_self
    have hprogress := follows_prepare (W := fun _ => False) hfirst w
    rw [hp] at hprogress
    obtain ⟨hw₁, hc₁, -, hhas⟩ := hprogress hw hc
    refine ⟨w₁, .of_prepare hw.stocked ?_ hp, ih hw₁ hc₁ (fun q hq => ?_) hrest⟩
    · rintro s rfl
      exact hfirst
    · have hold := hps q (List.mem_cons_of_mem _ hq)
      cases q with
      | room s => exact (hhas s).mpr hold
      | program k => exact hold

end Workspace

/-! ### Graphs -/

/-- The kernels that an action needs programs of. -/
def Action.kernels : Action → List Kernel
  | task k _ => [k]
  | _ => []

/-- What an action wants seen to, in the order in which it comes to it. -/
def Action.preparations (a : Action) : List Preparation :=
  a.slots.map .room ++ a.kernels.map .program

/-- What the nodes of a graph want seen to. -/
def Graph.preparations (g : Graph) : List Preparation := g.nodes.flatMap (·.action.preparations)

namespace Graph

open Preparation

variable {κ : KernelId → Kernel} {s t : Site} {node : String} {stage : Stage}

theorem prepare_of_makeRoom {slots : List SlotId} (h : (Step.each slots fun slot => do
      let _ ← inNode node stage (Workspace.ensureAllocated slot)) s = (.ok (), t)) :
    Step.each (slots.map .room) Preparation.prepare s.workspace = (.ok (), t.workspace) := by
  induction slots generalizing s with
  | nil => cases h; rfl
  | cons slot r ih =>
    obtain ⟨u, s₁, hfirst, hrest⟩ := bind_eq_ok h
    obtain ⟨b, s₂, hroom, hu⟩ := bind_eq_ok hfirst
    obtain rfl : s₂ = s₁ := congrArg Prod.snd hu
    have hprepare : Preparation.prepare (.room slot) s.workspace = (.ok (), s₂.workspace) := by
      rw [Preparation.prepare, bind_of_ok (of_inNode hroom)]
      rfl
    exact (bind_of_ok hprepare).trans (ih hrest)

/-- A node that allocates and compiles in advance sees to its preparations. -/
theorem prepare_of_warmNode {n : Node} (h : warmNode n s = (.ok (), t)) :
    Step.each n.action.preparations Preparation.prepare s.workspace = (.ok (), t.workspace) := by
  rw [warmNode_apply] at h
  obtain ⟨u, s₁, hslots, hrest⟩ := bind_eq_ok h
  have hrooms := prepare_of_makeRoom hslots
  rw [Action.preparations, each_append, bind_of_ok hrooms]
  obtain ⟨name, a⟩ := n
  cases a with
  | task k args =>
    obtain ⟨q, s₂, hcompile, hu⟩ := bind_eq_ok hrest
    obtain rfl : s₂ = t := congrArg Prod.snd hu
    have hprepare : Preparation.prepare (.program k) s₁.workspace = (.ok (), s₂.workspace) := by
      rw [Preparation.prepare, bind_of_ok (of_inNode hcompile)]
      rfl
    exact bind_of_ok hprepare
  | _ =>
    obtain rfl : s₁ = t := congrArg Prod.snd hrest
    rfl

theorem prepare_of_each {ns : List Node} (h : Step.each ns warmNode s = (.ok (), t)) :
    Step.each (ns.flatMap (·.action.preparations)) Preparation.prepare s.workspace =
      (.ok (), t.workspace) := by
  induction ns generalizing s with
  | nil => cases h; rfl
  | cons n r ih =>
    obtain ⟨u, s₁, hn, hr⟩ := bind_eq_ok h
    rw [List.flatMap_cons, each_append, bind_of_ok (prepare_of_warmNode hn)]
    exact ih hr

/-- A graph is right to want what it wants. -/
theorem expects_preparations (hs : s.Sound κ) :
    ∀ p ∈ s.graph.preparations, s.workspace.Expects κ p := by
  intro p hp
  obtain ⟨n, hn, hp⟩ := List.mem_flatMap.mp hp
  rcases List.mem_append.mp hp with hp | hp
  · obtain ⟨slot, hslot, rfl⟩ := List.mem_map.mp hp
    exact (hs.built.slots slot).mpr ⟨n, hn, hslot⟩
  · have hknown := hs.known n hn
    obtain ⟨name, a⟩ := n
    cases a with
    | task k args =>
      obtain rfl := List.mem_singleton.mp hp
      exact hknown
    | _ => exact absurd hp List.not_mem_nil

/-- A graph whose memory was allocated and whose kernels were compiled in advance is ahead by
just that. -/
theorem ahead_of_warmup (hs : s.Sound κ) (h : warmup s = (.ok (), t)) :
    Workspace.Ahead Eq s.graph.preparations s.workspace t.workspace ∧
      s.graph.phase ≠ .disposed ∧ t.graph.phase ≠ .disposed ∧
      t.graph = { s.graph with table := t.graph.table, phase := t.graph.phase } := by
  rw [warmup_apply] at h
  by_cases hlive : s.graph.phase = .disposed
  · rw [if_pos hlive] at h
    cases h
  · rw [if_neg hlive] at h
    obtain ⟨u, s₁, hnodes, hphase⟩ := bind_eq_ok h
    have hahead := Workspace.ahead_of_prepare hs.workspace hs.programs (expects_preparations hs)
      (prepare_of_each hnodes)
    have hslots := Site.OnlySlots.warmNodes s.graph.nodes s
    rw [hnodes, Site.OnlySlots] at hslots
    obtain rfl : s₁.withGraph _ = t := congrArg Prod.snd hphase
    refine ⟨?_, hlive, ?_, ?_⟩
    · rw [Site.workspace_withGraph (by split <;> rfl)]
      exact hahead
    · rw [Site.withGraph, hslots]
      dsimp only
      split
      · exact Phase.noConfusion
      · exact hlive
    · rw [Site.withGraph, hslots]
      dsimp only
      split <;> rfl

end Graph

end Offload
