import Mathlib.Data.List.DropRight
import Offload.Proofs.Copies
import Offload.Proofs.Lifecycle

/-!
# What a profile accounts for

A profile has one sample for every node that a run has completed since it was cleared, and the bytes
of the sample are those of the copies that the node has made. Runs may fail anywhere, and in between
anything may happen: buffers are written and exchanged, memory is made and copied outside of runs,
and every call may find another machine.

* `Graph.completions` — the nodes that a run completes, with what each of them copies.
* `Scene`, `Graph.scenes` — the calls on a graph, each with what it found.
* `Scene.samples_run` — what one call does to a profile.
* `Graph.profile_accounts` — what a profile says after any calls.
-/

namespace Offload

open Step

/-! ### Nodes that are completed -/

/-- A node that was completed. -/
structure Completion where
  /-- the node -/
  node : Node
  /-- what it started with -/
  site : Site
  /-- the copies that it made -/
  copies : List Copy

/-- The sample of a node that was completed. -/
def Completion.sample (graph : String) (run : Nat) (c : Completion) : Sample :=
  ⟨graph ++ "." ++ c.node.name, c.node.action.kind, run, Copy.total c.copies⟩

namespace Graph

variable {run : Nat} {ns : List Node}

/-- The nodes that are completed in a run, up to the first one that fails. -/
def completions (run : Nat) : List Node → Site → List Completion
  | [], _ => []
  | n :: r, s => match (copying (s.graph.qualified n.name) n.action s).1 with
    | .ok cs => ⟨n, s, cs⟩ :: completions run r (runNode run n s).2
    | .error _ => []

/-- A node is completed with some copies and recorded with their bytes, or it fails. -/
theorem runNode_cases (run : Nat) (n : Node) (s : Site) :
    (∃ cs t, copying (s.graph.qualified n.name) n.action s = (.ok cs, t) ∧ s.OnlySlots t ∧
      runNode run n s =
        (.ok (), t.withGraph (completed (s.graph.qualified n.name) n run (Copy.total cs)))) ∨
    ∃ e t, copying (s.graph.qualified n.name) n.action s = (.error e, t) ∧ s.OnlySlots t ∧
      runNode run n s = (.error e, t) := by
  have hslots := Site.OnlySlots.perform (s.graph.qualified n.name) n.action s
  rw [perform_eq_copying, map_apply] at hslots
  rw [runNode_apply, perform_eq_copying, bind_apply, map_apply]
  rcases h : copying (s.graph.qualified n.name) n.action s with ⟨e | cs, t⟩ <;> rw [h] at hslots
  · exact .inr ⟨e, t, rfl, hslots, rfl⟩
  · exact .inl ⟨cs, t, rfl, hslots, rfl⟩

/-- Every node that is completed is recorded with the bytes of its copies, whether the others are
completed or not. -/
theorem samples_each (run : Nat) (ns : List Node) (s : Site) :
    (Step.each ns (runNode run) s).2.graph.profile.samples.toList =
      s.graph.profile.samples.toList ++
        (completions run ns s).map (Completion.sample s.graph.name run) := by
  induction ns generalizing s with
  | nil => exact (List.append_nil _).symm
  | cons n r ih =>
    rw [Step.each, completions]
    rcases runNode_cases run n s with ⟨cs, t, hcopy, hslots, hrun⟩ | ⟨e, t, hcopy, hslots, hrun⟩
    · rw [bind_of_ok hrun, ih, hcopy, hrun]
      simp only [Site.withGraph, completed, hslots.name, hslots.profile, Profile.samples_record,
        Array.toList_push, List.append_assoc, List.map_cons]
      rfl
    · rw [bind_of_error hrun, hcopy, hslots.profile]
      exact (List.append_nil _).symm

/-- Nodes are completed in order. -/
theorem completions_prefix (run : Nat) (ns : List Node) (s : Site) :
    (completions run ns s).map Completion.node <+: ns := by
  induction ns generalizing s with
  | nil => exact List.prefix_rfl
  | cons n r ih =>
    rw [completions]
    rcases (copying (s.graph.qualified n.name) n.action s).1 with e | cs
    · exact List.nil_prefix
    · exact (List.prefix_cons_inj n).mpr (ih _)

/-- Where nothing fails, all nodes are completed. -/
theorem completions_of_each {s : Site} {u : Unit}
    (h : (Step.each ns (runNode run) s).1 = .ok u) :
    (completions run ns s).map Completion.node = ns := by
  induction ns generalizing s with
  | nil => rfl
  | cons n r ih =>
    rw [Step.each] at h
    rw [completions]
    rcases runNode_cases run n s with ⟨cs, t, hcopy, -, hrun⟩ | ⟨e, t, -, -, hrun⟩
    · rw [bind_of_ok hrun] at h
      rw [hcopy, hrun]
      exact congrArg (n :: ·) (ih h)
    · rw [bind_of_error hrun] at h
      cases h

/-- A node that is completed has made its copies. -/
theorem copying_of_mem {c : Completion} {s : Site} (h : c ∈ completions run ns s) :
    ∃ t, copying (s.graph.qualified c.node.name) c.node.action c.site = (.ok c.copies, t) := by
  induction ns generalizing s with
  | nil => cases h
  | cons n r ih =>
    rw [completions] at h
    rcases runNode_cases run n s with ⟨cs, t, hcopy, hslots, hrun⟩ | ⟨e, t, hcopy, -, -⟩ <;>
      rw [hcopy] at h
    · rcases List.mem_cons.mp h with rfl | h
      · exact ⟨t, hcopy⟩
      · obtain ⟨t', ht'⟩ := ih h
        rw [hrun, qualified] at ht'
        have hname : (t.withGraph (completed (s.graph.qualified n.name) n run
            (Copy.total cs))).graph.name = s.graph.name := hslots.name
        rw [hname] at ht'
        exact ⟨t', ht'⟩
    · cases h

/-! ### Runs -/

/-- Waiting for the device in the end records nothing. -/
theorem samples_runAll (run : Nat) (s : Site) :
    (runAll run s).2.graph.profile.samples.toList =
      s.graph.profile.samples.toList ++
        (completions run s.graph.nodes s).map (Completion.sample s.graph.name run) := by
  rw [← samples_each, runAll_apply, bind_apply]
  rcases Step.each s.graph.nodes (runNode run) s with ⟨e | u, t⟩ <;> rfl

/-- A run adds a sample for every node that it completes, however it ends. -/
theorem samples_execute {s : Site} (hlive : s.graph.phase ≠ .disposed) :
    (execute s).2.graph.profile.samples.toList =
      s.graph.profile.samples.toList ++
        (completions (s.graph.runs + 1) s.graph.nodes s.begun).map
          (Completion.sample s.graph.name (s.graph.runs + 1)) := by
  have hall := samples_runAll (s.graph.runs + 1) s.begun
  rw [execute_apply, if_neg hlive]
  rw [Site.begun] at hall
  rcases h : runAll (s.graph.runs + 1) (s.withGraph ({ · with phase := .executing }))
    with ⟨e | u, t⟩ <;> rw [h] at hall <;> exact hall

/-- Nothing is recorded by allocating and compiling in advance. -/
theorem profile_warmup (s : Site) : (warmup s).2.graph.profile = s.graph.profile := by
  rw [warmup_apply]
  split
  · rfl
  · have hnodes := (Site.OnlySlots.warmNodes s.graph.nodes s).profile
    rw [bind_apply]
    rcases h : Step.each s.graph.nodes warmNode s with ⟨e | u, t⟩ <;> rw [h] at hnodes
    · exact hnodes
    · simp only [update, modify_apply]
      split <;> exact hnodes

/-- A run that succeeds completes all nodes. -/
theorem completions_of_runAll {s : Site} {u : Unit} (h : (runAll run s).1 = .ok u) :
    (completions run s.graph.nodes s).map Completion.node = s.graph.nodes := by
  rw [runAll_apply, bind_apply] at h
  rcases he : Step.each s.graph.nodes (runNode run) s with ⟨e | u', t⟩ <;> rw [he] at h
  · cases h
  · exact completions_of_each (congrArg Prod.fst he)

end Graph

/-! ### Calls -/

/-- A call on a graph, with what it finds. -/
structure Scene where
  /-- the graph on its machine -/
  site : Site
  /-- what is asked of it -/
  use : Use

namespace Scene

/-- The profile is cleared. -/
def clears (x : Scene) : Bool :=
  match x.use with
  | .call .clearProfile => x.site.graph.phase ≠ .disposed
  | _ => false

/-- The nodes that are completed by a run, and none for any other call. -/
def completions (x : Scene) : List Completion :=
  match x.use with
  | .call .execute =>
    if x.site.graph.phase = .disposed then []
    else Graph.completions (x.site.graph.runs + 1) x.site.graph.nodes x.site.begun
  | _ => []

/-- Nothing is completed by the call that clears the profile. -/
theorem completions_of_clears {x : Scene} (h : x.clears = true) : x.completions = [] := by
  rw [clears] at h
  rw [completions]
  split at h
  · rename_i hx
    rw [hx]
  · cases h

/-- A call that has nothing to do with the profile. -/
theorem samples_of_silent {x : Scene}
    (hprofile : (x.use.run x.site).2.graph.profile = x.site.graph.profile)
    (hclears : x.clears = false) (hcompletions : x.completions = []) :
    (x.use.run x.site).2.graph.profile.samples.toList =
      (if x.clears then [] else x.site.graph.profile.samples.toList) ++
        x.completions.map (Completion.sample x.site.graph.name (x.site.graph.runs + 1)) := by
  rw [hprofile, hclears, hcompletions]
  exact (List.append_nil _).symm

/-- What one call does to a profile: it may clear it, and it adds a sample for every node that it
completes. -/
theorem samples_run (x : Scene) :
    (x.use.run x.site).2.graph.profile.samples.toList =
      (if x.clears then [] else x.site.graph.profile.samples.toList) ++
        x.completions.map (Completion.sample x.site.graph.name (x.site.graph.runs + 1)) := by
  obtain ⟨s, u⟩ := x
  by_cases hlive : s.graph.phase = .disposed
  · -- it refuses to run and to be cleared, and keeps its profile
    have hsame : (u.run s).2 = s := by
      by_cases hu : u = .call .dispose
      · rw [hu, Use.run_call, Command.dispose_of_disposed hlive]
      · rw [Use.run_of_disposed hlive hu]
    refine samples_of_silent (congrArg (·.graph.profile) hsame) ?_ ?_
    · rw [clears]
      split
      · exact decide_eq_false (not_not_intro hlive)
      · rfl
    · rw [completions]
      split
      · exact if_pos hlive
      · rfl
  cases u with
  | samples => exact samples_of_silent (by rw [Use.run_samples]) rfl rfl
  | profileText => exact samples_of_silent (by rw [Use.run_profileText]) rfl rfl
  | call c =>
    cases hadds : c.adds
    case true =>
      refine samples_of_silent ?_ (by cases c <;> first | rfl | cases hadds)
        (by cases c <;> first | rfl | cases hadds)
      rw [Use.run_call]
      rcases Command.run_of_adds hadds s with ⟨e, hrun⟩ | ⟨name, a, t, -, hrun⟩
      · rw [hrun]
      · rw [hrun]
        rfl
    cases c with
    | warmup =>
      refine samples_of_silent ?_ rfl rfl
      rw [Use.run_call, Command.run, bind_pure_apply]
      exact Graph.profile_warmup s
    | execute =>
      have hclears : clears ⟨s, .call .execute⟩ = false := rfl
      have hnodes : completions ⟨s, .call .execute⟩ =
          Graph.completions (s.graph.runs + 1) s.graph.nodes s.begun := if_neg hlive
      rw [hclears, hnodes, Use.run_call]
      exact Graph.samples_execute hlive
    | rebind old new =>
      refine samples_of_silent ?_ rfl rfl
      rw [Use.run_call, Command.run, bind_pure_apply, Graph.rebind_apply, if_neg hlive]
      dsimp only
      split <;> rfl
    | synchronize buffers =>
      refine samples_of_silent ?_ rfl rfl
      rw [Use.run_call, Command.run, bind_pure_apply]
      exact (Site.OnlySlots.synchronize buffers s).profile
    | clearProfile =>
      have hclears : clears ⟨s, .call .clearProfile⟩ = true := decide_eq_true hlive
      rw [Use.run_call, Command.run, bind_pure_apply, Graph.clearProfile_apply, if_neg hlive,
        if_pos hclears]
      rfl
    | dispose =>
      refine samples_of_silent ?_ rfl rfl
      rw [Use.run_call]
      simp only [Command.run, Graph.dispose, if_neg hlive]
      rfl
    | _ => cases hadds

/-- Nodes are completed in the order in which the graph has them, and by runs only. -/
theorem completions_nodes (x : Scene) :
    x.completions.map Completion.node <+: x.site.graph.nodes := by
  rw [completions]
  split
  · split
    · exact List.nil_prefix
    · exact Graph.completions_prefix _ _ _
  · exact List.nil_prefix

/-- A run that succeeds reports the number that its samples have, and has completed all nodes. -/
theorem completions_of_ok {x : Scene} {r : Reply} (hx : x.use = .call .execute)
    (h : (x.use.run x.site).1 = .ok r) :
    r = .number (x.site.graph.runs + 1) ∧
      x.completions.map Completion.node = x.site.graph.nodes := by
  obtain ⟨s, u⟩ := x
  obtain rfl : u = .call .execute := hx
  rw [Use.run_call, Command.run, Graph.execute_apply] at h
  by_cases hlive : s.graph.phase = .disposed
  · rw [if_pos hlive] at h
    cases h
  · rw [if_neg hlive] at h
    have hnodes : completions ⟨s, .call .execute⟩ =
        Graph.completions (s.graph.runs + 1) s.graph.nodes s.begun := if_neg hlive
    rcases hall : Graph.runAll (s.graph.runs + 1) (s.withGraph ({ · with phase := .executing }))
      with ⟨e | u, t⟩ <;> rw [hall] at h <;> cases h
    rw [hnodes]
    exact ⟨rfl, Graph.completions_of_runAll (congrArg Prod.fst hall)⟩

/-- Nodes are completed by runs. -/
theorem execute_of_mem {x : Scene} {c : Completion} (hc : c ∈ x.completions) :
    x.use = .call .execute := by
  rw [completions] at hc
  split at hc
  · assumption
  · cases hc

/-- What a node that is completed has copied. -/
theorem copying_of_mem {x : Scene} {c : Completion} (hc : c ∈ x.completions) :
    ∃ t, Graph.copying (x.site.graph.qualified c.node.name) c.node.action c.site =
      (.ok c.copies, t) := by
  rw [completions] at hc
  split at hc
  · split at hc
    · cases hc
    · have hbegun := Graph.copying_of_mem hc
      exact hbegun
  · cases hc

end Scene

/-! ### All calls -/

namespace Graph

/-- What every call finds. -/
def scenes (g : Graph) : List (Machine × Use) → List Scene
  | [] => []
  | (m, u) :: r => ⟨⟨m, g⟩, u⟩ :: scenes (u.run ⟨m, g⟩).2.graph r

/-- One more call finds what the others have led to. -/
theorem scenes_concat (g : Graph) (visits : List (Machine × Use)) (v : Machine × Use) :
    g.scenes (visits ++ [v]) = g.scenes visits ++ [⟨⟨v.1, (g.lead visits).2⟩, v.2⟩] := by
  induction visits generalizing g with
  | nil => rfl
  | cons v' r ih => exact congrArg (_ :: ·) (ih _)

theorem lead_concat (g : Graph) (visits : List (Machine × Use)) (v : Machine × Use) :
    (g.lead (visits ++ [v])).2 = (v.2.run ⟨v.1, (g.lead visits).2⟩).2.graph := by
  induction visits generalizing g with
  | nil => rfl
  | cons v' r ih => exact ih _

/-- The samples are those of the calls since the profile was cleared. -/
theorem samples_lead (name : String) (visits : List (Machine × Use)) :
    ((empty name).lead visits).2.profile.samples.toList =
      (((empty name).scenes visits).rtakeWhile fun x => !x.clears).flatMap fun x =>
        x.completions.map (Completion.sample name (x.site.graph.runs + 1)) := by
  induction visits using List.reverseRecOn with
  | nil => rfl
  | append_singleton vs v ih =>
    have hname : ((empty name).lead vs).2.name = name := ((Life.new name).lead vs).name
    have hstep := Scene.samples_run ⟨⟨v.1, ((empty name).lead vs).2⟩, v.2⟩
    dsimp only at hstep
    rw [hname, ih] at hstep
    rw [lead_concat, hstep, scenes_concat, List.rtakeWhile_concat]
    by_cases hclears : Scene.clears ⟨⟨v.1, ((empty name).lead vs).2⟩, v.2⟩ = true
    · -- the call itself completes nothing, so nothing is left
      rw [if_pos hclears, if_neg (by simpa using hclears), Scene.completions_of_clears hclears]
      rfl
    · rw [if_neg hclears, if_pos (by simpa using hclears), List.flatMap_append,
        List.flatMap_singleton]

/-- What a profile says after any calls, each of which may find another machine. There is one sample
for each node that a run has completed since the profile was cleared, in the order in which that
happened; it has the names of graph and node, the kind of the node, and a number that counts the
successful runs up to then. Its bytes are those of the copies that the device has made for the node:
for copies on every run, the sizes that the listed buffers have when the node starts; for copies of
what is stale, the sizes of those that are stale then, each counted once; and none for tasks and
barriers. A run that succeeds completes all nodes, and any other run the first few. -/
theorem profile_accounts (name : String) (visits : List (Machine × Use)) :
    let scenes := (empty name).scenes visits
    let g := ((empty name).lead visits).2
    (g.profile.samples.toList.map fun x => (x.node, x.kind, x.run, x.bytes)) =
      ((scenes.rtakeWhile fun x => !x.clears).flatMap fun x => x.completions.map fun c =>
        (name ++ "." ++ c.node.name, c.node.action.kind, x.site.graph.runs + 1,
          Copy.total c.copies)) ∧
    reports ((empty name).lead visits).1 = List.range' 1 g.runs ∧
    ∀ x ∈ scenes,
      x.completions.map Completion.node <+: x.site.graph.nodes ∧
      (∀ r, x.use = .call .execute → (x.use.run x.site).1 = .ok r →
        r = .number (x.site.graph.runs + 1) ∧
          x.completions.map Completion.node = x.site.graph.nodes) ∧
      ∀ c ∈ x.completions, x.use = .call .execute ∧ ∃ t,
        copying (x.site.graph.qualified c.node.name) c.node.action c.site = (.ok c.copies, t) ∧
        perform (x.site.graph.qualified c.node.name) c.node.action c.site =
          (.ok (Copy.total c.copies), t) ∧
        Workspace.Moves c.copies c.site.workspace t.workspace ∧
        Copy.total c.copies = c.node.action.bytes c.site.workspace := by
  intro scenes g
  have hlife : Life name ((empty name).lead visits).1 g := (Life.new name).lead visits
  refine ⟨?_, hlife.reports, fun x _ => ⟨x.completions_nodes, fun r => Scene.completions_of_ok,
    fun c hc => ⟨Scene.execute_of_mem hc, ?_⟩⟩⟩
  · rw [samples_lead, List.map_flatMap]
    simp only [List.map_map]
    rfl
  · obtain ⟨t, hcopy⟩ := Scene.copying_of_mem hc
    obtain ⟨hmoves, hbytes⟩ := copying_ok hcopy
    refine ⟨t, hcopy, ?_, hmoves, hbytes⟩
    rw [perform_eq_copying, map_apply, hcopy]
    rfl

/-- A graph that is run, and then once more on a machine that copies nothing to the host any more.
The second run finds the buffer of its second node as the first run left it, and the third node
fails. -/
theorem profile_accounts_broken :
    let m : Machine := ⟨⟨#[.filled (.scalar .uint8) 2 (7 : UInt8),
      .filled (.scalar .uint8) 3 (7 : UInt8)]⟩, .ofDevice (.cpu none Pool.defaultKeep)⟩
    let build : List (Machine × Use) := [(m, .call (.streamIn [⟨0⟩])),
      (m, .call (.copyIn [⟨1⟩, ⟨1⟩])), (m, .call (.streamOut [⟨0⟩]))]
    let x : Scene := ⟨⟨m, ((empty "g").lead build).2⟩, .call .execute⟩
    let m' := (x.use.run x.site).2.machine
    let broken : Machine := { m' with context.device.faults := fun c _ => c = .download }
    let visits := build ++ [(m, .call .execute)] ++ [(broken, .call .execute)]
    reports ((empty "g").lead visits).1 = [1] ∧
      x.completions.map Completion.node = x.site.graph.nodes ∧
      (((empty "g").lead visits).2.profile.samples.toList.map
        fun x => (x.node, x.kind, x.run, x.bytes)) =
        [("g.stream_in.0", .streamIn, 1, 2), ("g.copy_in.1", .copyIn, 1, 3),
          ("g.stream_out.2", .streamOut, 1, 2), ("g.stream_in.0", .streamIn, 2, 2),
          ("g.copy_in.1", .copyIn, 2, 0)] := by
  intro m build x m' broken visits
  obtain ⟨hsamples, hreports, hscenes⟩ := profile_accounts "g" visits
  have hruns : ((empty "g").lead visits).2.runs = 1 := by decide +kernel
  have hx : x ∈ (empty "g").scenes visits := by
    rw [scenes_concat, scenes_concat]
    exact List.mem_append_left _ (List.mem_append_right _ (List.mem_singleton.mpr rfl))
  have hok : (x.use.run x.site).1.isOk = true := by decide +kernel
  have hnodes : x.completions.map Completion.node = x.site.graph.nodes := by
    rcases hr : (x.use.run x.site).1 with e | r
    · rw [hr] at hok
      cases hok
    · exact ((hscenes x hx).2.1 r rfl hr).2
  rw [hruns] at hreports
  exact ⟨hreports, hnodes, hsamples.trans (by decide +kernel)⟩

end Graph

end Offload
