import Offload.Proofs.Command
import Offload.Proofs.History

/-!
# Many graphs on many devices

Any number of graphs share host memory, and some of them share a device with its programs. A
history is a list of requests, each of which is a call of one graph, a change of host memory, or
new trouble with a device.

* `Fleet` — host memory, the devices, and the graphs with the devices that they are on.
* `Request.perform`, `Fleet.performAll` — one request, and a list of them.
* `Fleet.Sound` — what holds between requests; `Fleet.Reachable.sound` says that it always does.
-/

namespace Offload

/-- Graphs of several users on several devices. -/
structure Fleet (ι δ : Type) where
  /-- host memory, which all of them share -/
  hosts : HostMemory
  /-- the devices with their programs -/
  context : δ → Context
  /-- the device of a user -/
  home : ι → δ
  /-- the graph of a user -/
  graph : ι → Graph

namespace Fleet

variable {ι δ : Type}

/-- The graph of a user on its machine. -/
def site (f : Fleet ι δ) (u : ι) : Site := ⟨⟨f.hosts, f.context (f.home u)⟩, f.graph u⟩

/-- What a user works with. -/
def workspace (f : Fleet ι δ) (u : ι) : Workspace := (f.site u).workspace

/-- The slot tables of the graphs. -/
def system (f : Fleet ι δ) : System ι δ := ⟨f.hosts, f.context, f.home, fun u => (f.graph u).table⟩

/-- Another state of a device. -/
def setDevice [DecidableEq δ] (f : Fleet ι δ) (d : δ) (x : Device) : Fleet ι δ :=
  { f with context := Function.update f.context d { f.context d with device := x } }

/-- Put back what a user worked with. -/
def setSite [DecidableEq ι] [DecidableEq δ] (f : Fleet ι δ) (u : ι) (s : Site) : Fleet ι δ where
  hosts := s.machine.hosts
  context := Function.update f.context (f.home u) s.machine.context
  home := f.home
  graph := Function.update f.graph u s.graph

end Fleet

/-- Something that is asked of a fleet. -/
inductive Request (ι δ : Type) where
  /-- somebody makes or writes a host buffer -/
  | host (a : HostAction)
  /-- a user calls their graph -/
  | call (u : ι) (c : Command)
  /-- from now on other calls of a device fail, and its memory is limited in another way -/
  | configure (d : δ) (faults : Call → Nat → Bool) (capacity : Option Nat)

namespace Request

variable {ι δ : Type}

/-- Carry out a request. The result is the number of a run, and zero otherwise. -/
def perform [DecidableEq ι] [DecidableEq δ] : Request ι δ → Step GraphError (Fleet ι δ) Nat
  | host a => fun f => (.ok 0, { f with hosts := a.apply f.hosts })
  | call u c => fun f => ((c.run (f.site u)).1, f.setSite u (c.run (f.site u)).2)
  | configure d faults capacity => fun f =>
    (.ok 0, f.setDevice d ((f.context d).device.reconfigure faults capacity))

/-- The buffers that are passed were made, and kernels have their identities to themselves. -/
def Valid (κ : KernelId → Kernel) (f : Fleet ι δ) : Request ι δ → Prop
  | call _ c => c.Valid κ f.hosts
  | host _ | configure _ _ _ => True

end Request

namespace Fleet

variable {ι δ : Type} [DecidableEq ι] [DecidableEq δ]

/-- Carry out requests one after the other, whether they succeed or not. -/
def performAll : List (Request ι δ) → Fleet ι δ → List (Except GraphError Nat) × Fleet ι δ
  | [], f => ([], f)
  | r :: rs, f =>
    let (o, f) := r.perform f
    let (os, f) := performAll rs f
    (o :: os, f)

/-- Every request is valid when its turn comes. -/
def ValidAll (κ : KernelId → Kernel) : List (Request ι δ) → Fleet ι δ → Prop
  | [], _ => True
  | r :: rs, f => r.Valid κ f ∧ ValidAll κ rs (r.perform f).2

/-- Nobody has built anything yet, no device memory is in use, and nothing was compiled. -/
structure Start (f : Fleet ι δ) : Prop where
  /-- the pools are empty -/
  pool : ∀ d, ∃ capacity keep, (f.context d).device.pool = .empty capacity keep
  /-- there are no programs -/
  programs : ∀ d, (f.context d).programs = []
  /-- the graphs are new -/
  graph : ∀ u, ∃ name, f.graph u = .empty name

/-- What a history can lead to. -/
def Reachable (κ : KernelId → Kernel) (f : Fleet ι δ) : Prop :=
  ∃ f₀ rs, Start f₀ ∧ ValidAll κ rs f₀ ∧ f = (performAll rs f₀).2

/-- What holds between requests. -/
structure Sound (κ : KernelId → Kernel) (f : Fleet ι δ) : Prop where
  /-- the slot tables are sound -/
  system : f.system.Sound
  /-- programs are those of the kernels that they are filed under -/
  programs : ∀ d, (f.context d).Faithful κ
  /-- kernels of tasks have their identities to themselves -/
  known : ∀ u, ∀ n ∈ (f.graph u).nodes, n.action.Known κ
  /-- what nodes read was made available -/
  built : ∀ u, (f.graph u).Built
  /-- a slot that no task of its graph writes is clean -/
  clean : ∀ u s, ¬ (f.graph u).Writes s → (f.workspace u).Clean s

/-! ### Fleets stay sound -/

variable {κ : KernelId → Kernel} {f : Fleet ι δ} {u : ι} {s : Site}

theorem system_setSite (f : Fleet ι δ) (u : ι) (s : Site) :
    (f.setSite u s).system = f.system.setWorkspace u s.workspace := by
  have htable : (fun v => (Function.update f.graph u s.graph v).table) =
      Function.update (fun v => (f.graph v).table) u s.graph.table := by
    funext v
    by_cases hv : v = u
    · rw [hv, Function.update_self, Function.update_self]
    · rw [Function.update_of_ne hv, Function.update_of_ne hv]
  exact congrArg (System.mk _ _ _) htable

@[simp] theorem site_setSite_self (f : Fleet ι δ) (u : ι) (s : Site) :
    (f.setSite u s).site u = s := by
  simp only [site, setSite, Function.update_self]

/-- What was put back last counts. -/
theorem setSite_setSite (f : Fleet ι δ) (u : ι) (s s' : Site) :
    (f.setSite u s).setSite u s' = f.setSite u s' := by
  simp only [setSite, Function.update_idem]

@[simp] theorem graph_setSite_self (f : Fleet ι δ) (u : ι) (s : Site) :
    (f.setSite u s).graph u = s.graph := Function.update_self _ _ _

theorem graph_setSite_ne (f : Fleet ι δ) {v : ι} (hv : v ≠ u) (s : Site) :
    (f.setSite u s).graph v = f.graph v := Function.update_of_ne hv _ _

/-- A call, where its outcome is known. -/
theorem perform_call {c : Command} {o : Except GraphError Nat}
    (hrun : c.run (f.site u) = (o, s)) :
    (Request.call u c).perform f = (o, f.setSite u s) := by
  simp only [Request.perform, hrun]

/-- Graphs stay on their devices. -/
theorem home_perform (r : Request ι δ) (f : Fleet ι δ) : (r.perform f).2.home = f.home := by
  cases r <;> rfl

/-- More nodes write more slots. -/
theorem writes_of_nodes {g g' : Graph} {slot : SlotId} (h : g.nodes <+: g'.nodes)
    (hw : g.Writes slot) : g'.Writes slot := by
  obtain ⟨n, hn, hs⟩ := hw
  exact ⟨n, h.subset hn, hs⟩

omit [DecidableEq ι] [DecidableEq δ] in
theorem Sound.site (hf : f.Sound κ) (u : ι) : (f.site u).Sound κ :=
  ⟨hf.system.workspace u, hf.programs _, hf.known u, hf.built u⟩

/-- What a user may do with their graph. -/
theorem Sound.setSite (hf : f.Sound κ) (hs : s.Sound κ)
    (ha : Site.Advances (f.graph u).Writes (f.site u) s) : (f.setSite u s).Sound κ := by
  obtain ⟨hsystem, hadvances⟩ := hf.system.setWorkspace hs.workspace ha.workspace
  -- more nodes can only write more slots, so what is not written now was not written before
  have hnodes : ∀ v, (f.graph v).nodes <+: ((f.setSite u s).graph v).nodes :=
    (Function.forall_update_iff f.graph fun v g => (f.graph v).nodes <+: g.nodes).mpr
      ⟨ha.nodes, fun v _ => List.prefix_refl _⟩
  constructor
  case system =>
    rw [system_setSite]
    exact hsystem
  case programs =>
    exact (Function.forall_update_iff f.context fun _ c => c.Faithful κ).mpr
      ⟨hs.programs, fun d _ => hf.programs d⟩
  case known =>
    exact (Function.forall_update_iff f.graph fun _ g => ∀ n ∈ g.nodes, n.action.Known κ).mpr
      ⟨hs.known, fun v _ => hf.known v⟩
  case built =>
    exact (Function.forall_update_iff f.graph fun _ g => g.Built).mpr
      ⟨hs.built, fun v _ => hf.built v⟩
  case clean =>
    intro v slot hw
    have hnot : ¬ (f.graph v).Writes slot := fun h => hw (writes_of_nodes (hnodes v) h)
    have hclean := hadvances.clean v slot (fun h => hnot (h.1 ▸ h.2)) (hf.clean v slot hnot)
    rw [← system_setSite] at hclean
    exact hclean

/-- Whatever is asked of a fleet, it stays sound. -/
theorem Sound.perform {r : Request ι δ} (hf : f.Sound κ) (hr : r.Valid κ f) :
    (r.perform f).2.Sound κ := by
  cases r with
  | host a =>
    obtain ⟨hs, ha⟩ := hf.system.setHosts (a.extends_apply f.hosts)
    exact ⟨hs, hf.programs, hf.known, hf.built,
      fun v slot hw => ha.clean v slot not_false (hf.clean v slot hw)⟩
  | call u c =>
    obtain ⟨hs, ha⟩ := Command.advances_run (hf.site u) hr
    exact hf.setSite hs ha
  | configure d faults capacity =>
    obtain ⟨hs, ha⟩ := hf.system.setDevice (d := d)
      (x := (f.context d).device.reconfigure faults capacity) (B := fun _ => False)
      ⟨(hf.system.pool d).kept, (hf.system.pool d).nodup⟩ (fun id b hb => ⟨b, hb, rfl⟩)
      fun id b _ hb => hb
    constructor
    case system => exact hs
    case programs =>
      exact (Function.forall_update_iff f.context fun _ c => c.Faithful κ).mpr
        ⟨(hf.programs d).of_programs rfl, fun e _ => hf.programs e⟩
    case known => exact hf.known
    case built => exact hf.built
    case clean =>
      intro v slot hw
      exact ha.clean v slot (fun h => h.2.elim fun _ h => h.2) (hf.clean v slot hw)

/-- Graphs keep their names, and nodes are added at the end only. -/
theorem Sound.grows {r : Request ι δ} (hf : f.Sound κ) (hr : r.Valid κ f) (v : ι) :
    ((r.perform f).2.graph v).name = (f.graph v).name ∧
      (f.graph v).nodes <+: ((r.perform f).2.graph v).nodes := by
  cases r with
  | host a => exact ⟨rfl, List.prefix_refl _⟩
  | configure d faults capacity => exact ⟨rfl, List.prefix_refl _⟩
  | call u c =>
    have ha := (Command.advances_run (hf.site u) hr).2
    by_cases hv : v = u
    · subst hv
      rw [Request.perform, graph_setSite_self]
      exact ⟨ha.name, ha.nodes⟩
    · rw [Request.perform, graph_setSite_ne f hv]
      exact ⟨rfl, List.prefix_refl _⟩

theorem Sound.growsAll {rs : List (Request ι δ)} (hf : f.Sound κ) (hr : ValidAll κ rs f) (v : ι) :
    ((Fleet.performAll rs f).2.graph v).name = (f.graph v).name ∧
      (f.graph v).nodes <+: ((Fleet.performAll rs f).2.graph v).nodes := by
  induction rs generalizing f with
  | nil => exact ⟨rfl, List.prefix_refl _⟩
  | cons r rs ih =>
    obtain ⟨hname, hnodes⟩ := hf.grows hr.1 v
    obtain ⟨hname', hnodes'⟩ := ih (hf.perform hr.1) hr.2
    exact ⟨hname'.trans hname, hnodes.trans hnodes'⟩

theorem Sound.performAll {rs : List (Request ι δ)} (hf : f.Sound κ) (hr : ValidAll κ rs f) :
    (performAll rs f).2.Sound κ := by
  induction rs generalizing f with
  | nil => exact hf
  | cons r rs ih => exact ih (hf.perform hr.1) hr.2

/-- No slot is lost, and slots keep their element types. -/
theorem Sound.advances {r : Request ι δ} (hf : f.Sound κ) (hr : r.Valid κ f) :
    System.Advances (fun _ _ => True) f.system (r.perform f).2.system := by
  cases r with
  | host a =>
    exact (hf.system.setHosts (a.extends_apply f.hosts)).2.mono fun _ _ _ => trivial
  | call u c =>
    obtain ⟨hs, ha⟩ := Command.advances_run (hf.site u) hr
    rw [Request.perform, system_setSite]
    exact (hf.system.setWorkspace hs.workspace ha.workspace).2.mono fun _ _ _ => trivial
  | configure d faults capacity =>
    exact (hf.system.setDevice (d := d) (x := (f.context d).device.reconfigure faults capacity)
      (B := fun _ => False) ⟨(hf.system.pool d).kept, (hf.system.pool d).nodup⟩
      (fun id b hb => ⟨b, hb, rfl⟩) fun id b _ hb => hb).2.mono fun _ _ _ => trivial

theorem Sound.advancesAll {rs : List (Request ι δ)} (hf : f.Sound κ) (hr : ValidAll κ rs f) :
    System.Advances (fun _ _ => True) f.system (Fleet.performAll rs f).2.system := by
  induction rs generalizing f with
  | nil => exact .refl _ _
  | cons r rs ih => exact (hf.advances hr.1).trans (ih (hf.perform hr.1) hr.2)

/-- What is valid in the beginning stays so, whatever is asked before. -/
theorem Sound.validAll {rs : List (Request ι δ)} (hf : f.Sound κ) (hr : ∀ r ∈ rs, r.Valid κ f) :
    ValidAll κ rs f := by
  induction rs generalizing f with
  | nil => trivial
  | cons r rs ih =>
    have hfirst := hr r List.mem_cons_self
    have hhosts := (hf.advances hfirst).hosts
    refine ⟨hfirst, ih (hf.perform hfirst) ?_⟩
    intro r' hr'
    have hvalid := hr r' (List.mem_cons_of_mem _ hr')
    cases r' with
    | host a => exact hvalid
    | call v c => exact ⟨fun b hb => hhosts.has (hvalid.made b hb), hvalid.known⟩
    | configure d faults capacity => trivial

omit [DecidableEq ι] [DecidableEq δ] in
theorem Start.sound (h : Start f) : f.Sound κ := by
  have htable : ∀ u, (f.graph u).table = .empty := fun u => by
    obtain ⟨name, hu⟩ := h.graph u
    rw [hu]
    rfl
  have hnodes : ∀ u, (f.graph u).nodes = [] := fun u => by
    obtain ⟨name, hu⟩ := h.graph u
    rw [hu]
    rfl
  constructor
  case system => exact System.Start.sound ⟨h.pool, htable⟩
  case programs =>
    intro d
    exact (Context.Faithful.empty κ (f.context d).device).of_programs (h.programs d)
  case known =>
    intro u n hn
    rw [hnodes u] at hn
    cases hn
  case built =>
    intro u
    obtain ⟨name, hu⟩ := h.graph u
    rw [hu]
    exact .empty name
  case clean =>
    intro u slot _
    refine Workspace.clean_of_not_has ?_
    intro hslot
    have hempty : SlotTable.Has .empty slot := htable u ▸ hslot
    exact absurd hempty (Nat.not_lt_zero _)

/-- Nothing need be asked of a fleet. -/
theorem Start.reachable (h : Start f) : Reachable κ f :=
  ⟨f, [], h, trivial, rfl⟩

/-- Whatever was asked of a fleet since the beginning, it is sound. -/
theorem Reachable.sound (h : Reachable κ f) : f.Sound κ := by
  obtain ⟨f₀, rs, h₀, hr, rfl⟩ := h
  exact h₀.sound.performAll hr

/-- One new graph on the host, with a limit on device memory if there is one. -/
def single (name : String) (capacity : Option Nat) (buffers : List HostBuffer) :
    Fleet Unit Unit where
  hosts := ⟨buffers.toArray⟩
  context _ := .ofDevice (.cpu capacity Pool.defaultKeep)
  home _ := ()
  graph _ := .empty name

theorem start_single {name : String} {capacity : Option Nat} {buffers : List HostBuffer} :
    Start (single name capacity buffers) where
  pool _ := ⟨capacity, _, rfl⟩
  programs _ := rfl
  graph _ := ⟨name, rfl⟩

end Fleet

end Offload
