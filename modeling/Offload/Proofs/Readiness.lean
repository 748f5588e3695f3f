import Offload.Proofs.Lagging
import Offload.Proofs.Ownership

/-!
# Graphs that are ready to run

A graph is ready when all that its nodes want seen to was seen to. A run of such a graph asks
neither the allocator nor the compiler for anything: whatever their books say, the run is the same,
and it leaves them as they are.

* `Books` — what the allocator and the compiler go by.
* `Site.Ready` — a graph that is ready; `Site.Ready.execute_withBooks` is what a run of it does.
* `Command.spares` — calls that leave a graph ready; `Site.Ready.run` says that they do.
-/

namespace Offload

open Step

/-! ### Books -/

/-- What the allocator and the compiler go by, and what they change whenever they are asked for
something. -/
structure Books where
  /-- the greatest number of bytes handed out at a time, if there is a limit -/
  capacity : Option Nat
  /-- the number of bytes handed out -/
  used : Nat
  /-- how many blocks of one size are kept -/
  keep : Nat
  /-- the blocks that are kept, with their sizes -/
  cached : List (Nat × BlockId)
  /-- every use of the compiler -/
  calls : Array CompilerCall
  /-- how many programs were made -/
  issued : Nat

namespace Context

/-- The books of a context. -/
def books (c : Context) : Books :=
  ⟨c.device.pool.arena.capacity, c.device.pool.arena.used, c.device.pool.keep,
    c.device.pool.cached, c.calls, c.issued⟩

/-- The same context with other books. -/
def withBooks (x : Books) (c : Context) : Context where
  device := { c.device with
    pool := ⟨⟨x.capacity, x.used, c.device.pool.arena.blocks⟩, x.keep, x.cached⟩ }
  programs := c.programs
  calls := x.calls
  issued := x.issued

@[simp] theorem books_withBooks (x : Books) (c : Context) : (c.withBooks x).books = x := rfl

@[simp] theorem withBooks_books (c : Context) : c.withBooks c.books = c := rfl

end Context

/-- The same workspace with other books. -/
def Workspace.withBooks (x : Books) (w : Workspace) : Workspace :=
  { w with machine.context := w.machine.context.withBooks x }

/-- The same site with other books. -/
def Site.withBooks (x : Books) (s : Site) : Site :=
  { s with machine.context := s.machine.context.withBooks x }

/-- Copies and kernels do not see any books. -/
theorem Workspace.veil_withBooks (x : Books) : Veil fun w v => v = w.withBooks x where
  hosts := by rintro w _ rfl; rfl
  target := by rintro w _ rfl; rfl
  faults := by rintro w _ rfl; rfl
  tally := by rintro w _ rfl; rfl
  program := by rintro w _ key p rfl h; exact h
  slot := by rintro w _ s id rfl _; rfl
  block := by rintro w _ id rfl _; rfl
  edit := by rintro w _ e rfl _; cases e <;> rfl
  setHost := by rintro w _ s id h rfl _ _ _; rfl
  setSynced := by rintro w _ s id n rfl _; rfl

namespace Site

open Offload.Graph

variable {κ : KernelId → Kernel} {s s' t : Site}

/-- Whatever a graph does with its nodes, what was seen to stays so. -/
theorem allows_retains :
    Allows (fun s s' => s.workspace.Retains s'.workspace) fun _ => True where
  refl s := .refl s.workspace
  trans _ _ _ := .trans
  ensureAllocated slot _ s := .ensureAllocated slot s.workspace
  upload slot _ s := .upload slot s.workspace
  download slot _ s := .download slot s.workspace
  wait s := .onDevice (Device.synchronize_changes (fun _ => False) s.workspace.device)
  graph f hf s := by
    rw [workspace_withGraph (hf.table s.graph)]
    exact .refl s.workspace

theorem retains_execute (s : Site) : s.workspace.Retains (Graph.execute s).2.workspace :=
  allows_retains.execute (fun _ _ _ _ => trivial) fun _ _ node k _ _ =>
    allows_retains.launch (fun _ _ => trivial) node (fun s => .compile k s.workspace)
      fun s p given _ => .onDevice (Device.launch_changes s.workspace.device p.kernel given)

theorem retains_warmup (s : Site) : s.workspace.Retains (Graph.warmup s).2.workspace :=
  allows_retains.warmup (fun _ _ _ _ => trivial) fun _ _ k _ _ s => .compile k s.workspace

theorem retains_synchronize (buffers : List HostId) (s : Site) :
    s.workspace.Retains (Graph.synchronize buffers s).2.workspace :=
  allows_retains.synchronize fun _ _ _ _ => trivial

/-- Two sites are the same if their graphs and their workspaces are. -/
theorem eq_of_onlySlots (h : OnlySlots s t) (hw : t.workspace = s.workspace) : t = s := by
  obtain ⟨m, g⟩ := s
  obtain ⟨m', g'⟩ := t
  obtain ⟨hm, htable⟩ : m' = m ∧ g'.table = g.table := by simpa [Site.workspace] using hw
  have hg : g' = { g with table := g'.table } := h
  rw [hm, hg, htable]

/-- All that the nodes want seen to was seen to. -/
def Ready (s : Site) : Prop := ∀ p ∈ s.graph.preparations, Preparation.Done s.workspace p

namespace Ready

/-- A ready graph runs in the same way whatever the books say, and leaves them as they are. -/
theorem execute_withBooks (h : s.Ready) (hs : s.graph.Built) (x : Books) :
    Graph.execute (s.withBooks x) = ((Graph.execute s).1, (Graph.execute s).2.withBooks x) := by
  by_cases hlive : s.graph.phase = .disposed
  · have hlive' : (s.withBooks x).graph.phase = .disposed := hlive
    rw [execute_apply, execute_apply, if_pos hlive, if_pos hlive']
    rfl
  have hlags : Lags (fun w v => v = w.withBooks x) s.graph.preparations s.graph.preparations
      (fun _ => False) s.begun (s.withBooks x).begun :=
    ⟨rfl, (Workspace.Ahead.iff_of_done h).mpr rfl, fun _ hp => hp, nofun⟩
  have hrun := hlags.execute (Workspace.veil_withBooks x) hs hlive hlive
  have hretains := retains_execute s
  rcases hs : Graph.execute s with ⟨r, s'⟩
  rcases ht : Graph.execute (s.withBooks x) with ⟨r', t'⟩
  rw [hs] at hretains
  rw [hs, ht] at hrun
  -- nobody lags behind in the end: on the way nothing was seen to that was not seen to before
  cases hrun with
  | ok hrun =>
    obtain ⟨rfl, hend⟩ := hrun
    exact congrArg (Prod.mk _) (eq_of_onlySlots (s := s'.withBooks x) hend.graph hend.ahead)
  | error hrun =>
    obtain ⟨rfl, ps, hend⟩ := hrun
    have hdone : ∀ p ∈ ps, Preparation.Done s'.workspace p := fun p hp =>
      hretains p (h p (hend.pending p hp))
    exact congrArg (Prod.mk _) (eq_of_onlySlots (s := s'.withBooks x) hend.graph
      ((Workspace.Ahead.iff_of_done hdone).mp hend.ahead))

/-- A run of a ready graph leaves the books as they are. -/
theorem books_execute (h : s.Ready) (hs : s.graph.Built) :
    (Graph.execute s).2.machine.context.books = s.machine.context.books := by
  have hrun := h.execute_withBooks hs s.machine.context.books
  have hsame : s.withBooks s.machine.context.books = s := rfl
  rw [hsame] at hrun
  rw [congrArg Prod.snd hrun]
  rfl

end Ready

end Site

/-! ### Calls -/

namespace Command

/-- The call builds nothing, exchanges nothing and gives nothing up. -/
def spares : Command → Bool
  | warmup | execute | synchronize _ | clearProfile => true
  | _ => false

variable {κ : KernelId → Kernel} {c : Command} {s : Site}

theorem retains_of_spares (hc : c.spares = true) (s : Site) :
    s.workspace.Retains (c.run s).2.workspace := by
  cases c with
  | warmup =>
    rw [run, Step.snd_bind_pure]
    exact Site.retains_warmup s
  | execute => exact Site.retains_execute s
  | synchronize buffers =>
    rw [run, Step.snd_bind_pure]
    exact Site.retains_synchronize buffers s
  | clearProfile =>
    rw [run, Step.snd_bind_pure, Graph.clearProfile_apply]
    split <;> exact .refl s.workspace
  | _ => cases hc

/-- No call forgets programs. -/
theorem done_program_run (hs : s.Sound κ) (hc : c.Valid κ s.machine.hosts) {k : Kernel}
    (h : Preparation.Done s.workspace (.program k)) :
    Preparation.Done (c.run s).2.workspace (.program k) := by
  have htarget := (advances_run hs hc).2.workspace.rules.target
  have hprograms : (c.run s).2.machine.context.programs = s.machine.context.programs →
      Preparation.Done (c.run s).2.workspace (.program k) := by
    intro hp
    obtain ⟨q, hq⟩ := h
    refine ⟨q, ?_⟩
    rw [Workspace.key, htarget, Context.program?]
    show ((c.run s).2.machine.context.programs.find? _).map _ = some q
    rw [hp]
    exact hq
  cases hspares : c.spares with
  | true => exact retains_of_spares hspares s _ h
  | false =>
    cases hadds : c.adds with
    | true =>
      rcases run_of_adds hadds s with ⟨e, hrun⟩ | ⟨name, a, t, -, hrun⟩ <;> rw [hrun] <;> exact h
    | false =>
      cases c with
      | rebind old new =>
        refine hprograms ?_
        rw [run, Step.snd_bind_pure, Graph.rebind_apply]
        split
        · rfl
        · have hp := (samePrograms_rebind old new s.workspace).programs
          split <;> rename_i hr <;> rw [hr] at hp <;> exact hp
      | dispose =>
        refine hprograms ?_
        simp only [run, Graph.dispose]
        split
        · rfl
        · exact (samePrograms_foldl_release _ _).programs
      | _ => simp [spares, adds] at hspares hadds

end Command

namespace Site.Ready

variable {s s' : Site} {c : Command}

/-- Others may use the machine, as long as there are programs where there were some. -/
theorem of_programs (h : s.Ready) (hg : s'.graph = s.graph)
    (hp : ∀ k, Preparation.Done s.workspace (.program k) →
      Preparation.Done s'.workspace (.program k)) : s'.Ready := by
  intro p hmem
  rw [hg] at hmem
  cases p with
  | room slot =>
    obtain ⟨id, hid⟩ := h _ hmem
    exact ⟨id, (congrArg (fun g : Graph => g.table.block? slot) hg).trans hid⟩
  | program k => exact hp k (h _ hmem)

/-- Some calls leave a ready graph ready. -/
theorem run (h : s.Ready) (hc : c.spares = true) : (c.run s).2.Ready := by
  have hadds : c.adds = false := by cases c <;> first | rfl | cases hc
  have hnodes := (Command.keeps_run_of_not_adds hadds s).1
  intro p hp
  rw [Graph.preparations, hnodes] at hp
  exact Command.retains_of_spares hc s p (h p hp)

end Site.Ready

end Offload
