import Offload.Proofs.Fleet
import Offload.Proofs.Parallel

/-!
# Copying once agrees with copying always

A graph that copies only what is stale is asked for the same as one that copies always, for as long
as anyone likes, while other graphs go about their own business. As long as no task writes what is
copied when it is stale, and no upload fails, all host buffers and all device memory are the same
on either side, and all calls have the same outcome. Only the names differ that nodes of the two
kinds have in errors.

* `Fleet.Mirrors` — two fleets in which all is the same but the graph of one user.
* `Fleet.Mirrors.perform`, `Fleet.Mirrors.performAll` — one request, and a list of them.
* `Fleet.copyOnce_agrees` — a graph copies always instead, from any moment on.
-/

namespace Offload

open Step

/-! ### The graph that copies always -/

/-- The graph with all copies made always. -/
def Graph.streamed (g : Graph) : Graph := { g with nodes := g.nodes.mapIdx Node.streamed }

/-- No task writes a slot that a node copies only when it is stale. -/
def Graph.Separate (g : Graph) : Prop :=
  ∀ n ∈ g.nodes, ∀ slots, n.action = .copyIn slots → ∀ slot ∈ slots, ¬ g.Writes slot

/-- The outcomes are the same, or the graph is out of device memory at a node that copies what is
stale, and the one outcome names the node and the other the one in its place. -/
inductive Graph.SameOutcome (g : Graph) : Except GraphError Nat → Except GraphError Nat → Prop
  /-- the same outcome -/
  | same (o : Except GraphError Nat) : SameOutcome g o o
  /-- no memory for a node that copies -/
  | outOfMemory {i : Nat} {n : Node} {slots : List SlotId} {source : DeviceError}
    (hn : g.nodes[i]? = some n) (ha : n.action = .copyIn slots) :
    SameOutcome g (.error (.deviceOutOfMemory (g.qualified n.name) source))
      (.error (.deviceOutOfMemory (g.qualified (n.streamed i).name) source))

namespace Graph

theorem streamed_mirrors (T : Prop) (hT : T) (g : Graph) : g.Mirrors T g.streamed where
  name := rfl
  table := rfl
  nodes := by
    rw [streamed, List.mapIdx_eq_zipIdx_map, List.forall₂_map_right_iff]
    exact List.forall₂_same.mpr fun p _ => .inr ⟨hT, rfl⟩
  phase := rfl
  runs := rfl

theorem Mirrors.refl (T : Prop) (g : Graph) : g.Mirrors T g where
  name := rfl
  table := rfl
  nodes := by
    have h := (List.forall₂_map_right_iff (R := Node.Mirrors T) (f := Prod.fst)).mpr
      (List.forall₂_same.mpr fun (p : Node × Nat) (_ : p ∈ g.nodes.zipIdx) => .inl rfl)
    rwa [List.zipIdx_map_fst] at h
  phase := rfl
  runs := rfl

variable {g g' : Graph}

/-- Without tasks, nothing is written. -/
theorem separate_of_kinds (h : ∀ n ∈ g.nodes, n.action.kind ≠ .task) : g.Separate := by
  rintro - - - - slot - ⟨n, hn, hw⟩
  have hkind := h n hn
  cases ha : n.action with
  | task k args => exact hkind (by rw [ha]; rfl)
  | _ => rw [ha] at hw; exact hw

/-- A graph with fewer nodes is as separate. -/
theorem Separate.of_nodes (h : g'.Separate) (hn : g.nodes <+: g'.nodes) : g.Separate :=
  fun n hmem slots ha slot hslot hw =>
    h n (hn.subset hmem) slots ha slot hslot (Fleet.writes_of_nodes hn hw)

/-- Outcomes stay the same when nodes are added. -/
theorem SameOutcome.of_nodes {o o' : Except GraphError Nat} (h : g.SameOutcome o o')
    (hname : g'.name = g.name) (hn : g.nodes <+: g'.nodes) : g'.SameOutcome o o' := by
  cases h with
  | same => exact .same o
  | @outOfMemory i n slots source hi ha =>
    have hi' : g'.nodes[i]? = some n := by
      obtain ⟨r, hr⟩ := hn
      rw [← hr, List.getElem?_append_left (List.getElem?_eq_some_iff.mp hi).1]
      exact hi
    have hsame : g'.SameOutcome (.error (.deviceOutOfMemory (g'.qualified n.name) source)) _ :=
      .outOfMemory hi' ha
    rwa [Graph.qualified, Graph.qualified, hname] at hsame

theorem sameOutcome_of_errorMirrors {T : Prop} {e e' : GraphError}
    (h : ErrorMirrors T g.name g.nodes.zipIdx e e') : g.SameOutcome (.error e) (.error e') := by
  rcases h with rfl | ⟨-, ⟨n, i⟩, hp, ⟨slots, ha⟩, source, rfl, rfl⟩
  · exact .same _
  · exact .outOfMemory (List.mk_mem_zipIdx_iff_getElem?.mp hp) ha

end Graph

/-! ### Fleets -/

/-- The same request, but the graph of `u` copies always. -/
def Request.streamed {ι δ : Type} [DecidableEq ι] (u : ι) : Request ι δ → Request ι δ
  | call v c => call v (if v = u then c.streamed else c)
  | r => r

/-- The request does not make uploads to a device fail. -/
def Request.Quiet {ι δ : Type} (d : δ) : Request ι δ → Prop
  | configure d' faults _ => d' = d → ∀ n, faults .upload n = false
  | _ => True

namespace Fleet

variable {ι δ : Type}

/-- The fleet with the graph of `u` copying always. -/
def streamed [DecidableEq ι] (u : ι) (f : Fleet ι δ) : Fleet ι δ :=
  { f with graph := Function.update f.graph u (f.graph u).streamed }

/-- All is the same but for the graph of `u`, which copies always, and the count of uploads to
its device. -/
structure Mirrors (u : ι) (f f' : Fleet ι δ) : Prop where
  /-- host memory is the same -/
  hosts : f'.hosts = f.hosts
  /-- graphs are on the same devices -/
  home : f'.home = f.home
  /-- the devices are alike -/
  context : ∀ d, (f.context d).Alike (d = f.home u) (f'.context d)
  /-- the graphs are mirrored -/
  graph : ∀ v, (f.graph v).Mirrors (v = u) (f'.graph v)

namespace Mirrors

variable {f f' : Fleet ι δ} {u : ι}

theorem site (h : Mirrors u f f') (v : ι) :
    Site.Mirrors (f.home v = f.home u) (v = u) (f.site v) (f'.site v) := by
  refine ⟨?_, h.hosts, h.graph v⟩
  simp only [Fleet.site, h.home]
  exact h.context _

/-- Device memory is the same. -/
theorem deviceBytes (h : Mirrors u f f') (v : ι) (s : SlotId) :
    (f'.workspace v).deviceBytes s = (f.workspace v).deviceBytes s := by
  have hw : Workspace.Alike _ (f.workspace v) (f'.workspace v) := (h.site v).workspace
  rw [Workspace.deviceBytes, Workspace.deviceBytes, hw.pool, SlotTable.block?, SlotTable.block?,
    hw.table]

variable [DecidableEq ι] [DecidableEq δ]

theorem setSite (h : Mirrors u f f') {v : ι} {s t : Site}
    (hs : Site.Mirrors (f.home v = f.home u) (v = u) s t) :
    Mirrors u (f.setSite v s) (f'.setSite v t) where
  hosts := hs.hosts
  home := h.home
  context d := by
    simp only [Fleet.setSite, h.home, Function.update_apply]
    split
    · rename_i hd
      exact hd ▸ hs.context
    · exact h.context d
  graph w := by
    by_cases hw : w = v
    · subst hw
      rw [graph_setSite_self, graph_setSite_self]
      exact hs.graph
    · rw [graph_setSite_ne f hw, graph_setSite_ne f' hw]
      exact h.graph w

variable {κ : KernelId → Kernel}

/-- One request. -/
theorem perform {r : Request ι δ} (h : Mirrors u f f') (hf : f.Sound κ)
    (hg : (f.graph u).Separate) (hq : r.Quiet (f.home u)) :
    (f.graph u).SameOutcome (r.perform f).1 ((r.streamed u).perform f').1 ∧
      Mirrors u (r.perform f).2 ((r.streamed u).perform f').2 := by
  cases r with
  | host a =>
    exact ⟨.same _, congrArg a.apply h.hosts, h.home, h.context, h.graph⟩
  | configure d faults capacity =>
    refine ⟨.same _, h.hosts, h.home, ?_, h.graph⟩
    intro e
    simp only [Request.streamed, Request.perform, Fleet.setDevice, Function.update_apply]
    split
    · rename_i he
      subst he
      have hc := h.context e
      exact ⟨hc.device.reconfigure capacity hq, hc.programs, hc.calls, hc.issued⟩
    · exact h.context e
  | call v c =>
    have hcommand : (if v = u then c.streamed else c) = c ∨
        v = u ∧ (if v = u then c.streamed else c) = c.streamed := by
      by_cases hv : v = u
      · rw [if_pos hv]
        exact .inr ⟨hv, rfl⟩
      · rw [if_neg hv]
        exact .inl rfl
    have hrun := Command.matches_run (κ := κ) (Q := f.home v = f.home u) (T := v = u)
      (fun hv => hv ▸ rfl) hcommand (h.site v) (hf.site v) fun hv => by
        subst hv
        exact fun p hp slots ha slot hslot =>
          have hw := hg p.1 (List.fst_mem_of_mem_zipIdx hp) slots ha slot hslot
          ⟨hw, hf.clean v slot hw⟩
    rcases hl : c.run (f.site v) with ⟨o, s⟩
    rcases hr : Command.run (if v = u then c.streamed else c) (f'.site v) with ⟨o', t⟩
    rw [perform_call hl, Request.streamed, perform_call hr]
    rw [hl, hr] at hrun
    cases hrun with
    | ok hs =>
      obtain ⟨rfl, hs⟩ := hs
      exact ⟨.same _, h.setSite hs⟩
    | error hs =>
      obtain ⟨he, hs⟩ := hs
      refine ⟨?_, h.setSite hs⟩
      by_cases hv : v = u
      · subst hv
        exact Graph.sameOutcome_of_errorMirrors he
      · obtain rfl := he.resolve_right fun hT => hv hT.1
        exact .same _

/-- Any number of requests. -/
theorem performAll {rs : List (Request ι δ)} (h : Mirrors u f f') (hf : f.Sound κ)
    (hr : ValidAll κ rs f) (hq : ∀ r ∈ rs, r.Quiet (f.home u))
    (hg : ((Fleet.performAll rs f).2.graph u).Separate) :
    List.Forall₂ ((Fleet.performAll rs f).2.graph u).SameOutcome (Fleet.performAll rs f).1
        (Fleet.performAll (rs.map (·.streamed u)) f').1 ∧
      Mirrors u (Fleet.performAll rs f).2 (Fleet.performAll (rs.map (·.streamed u)) f').2 := by
  induction rs generalizing f f' with
  | nil => exact ⟨.nil, h⟩
  | cons r rs ih =>
    have hsound := hf.perform hr.1
    -- nodes are only added, so what is separate in the end is separate now
    obtain ⟨hname, hnodes⟩ := hf.growsAll hr u
    obtain ⟨ho, h₁⟩ := h.perform hf (hg.of_nodes hnodes) (hq r List.mem_cons_self)
    have hquiet : ∀ r' ∈ rs, r'.Quiet ((r.perform f).2.home u) := fun r' hr' => by
      rw [home_perform]
      exact hq r' (List.mem_cons_of_mem _ hr')
    obtain ⟨hos, h₂⟩ := ih h₁ hsound hr.2 hquiet hg
    exact ⟨.cons (ho.of_nodes hname hnodes) hos, h₂⟩

end Mirrors

variable [DecidableEq ι] [DecidableEq δ] {κ : KernelId → Kernel} {f : Fleet ι δ} {u : ι}

omit [DecidableEq δ] in
theorem mirrors_streamed (u : ι) (f : Fleet ι δ)
    (hq : ∀ n, (f.context (f.home u)).device.faults .upload n = false) :
    Mirrors u f (f.streamed u) where
  hosts := rfl
  home := rfl
  context d := ⟨.refl fun hd => hd ▸ hq, rfl, rfl, rfl⟩
  graph v := by
    simp only [streamed, Function.update_apply]
    split
    · rename_i hv
      subst hv
      exact Graph.streamed_mirrors _ rfl _
    · exact .refl _ _

/-- From any moment on, the graph of a user copies always what it copied only when it was stale.
Whatever is asked of it and of all other graphs from then on, every outcome is the same up to the
names of nodes that copy, all host buffers are the same, and all device memory is the same. -/
theorem copyOnce_agrees {rs : List (Request ι δ)} (hf : Reachable κ f) (hr : ValidAll κ rs f)
    (hg : ((performAll rs f).2.graph u).Separate)
    (hquiet : ∀ n, (f.context (f.home u)).device.faults .upload n = false)
    (hq : ∀ r ∈ rs, r.Quiet (f.home u)) :
    List.Forall₂ ((performAll rs f).2.graph u).SameOutcome (performAll rs f).1
        (performAll (rs.map (·.streamed u)) (f.streamed u)).1 ∧
      (performAll (rs.map (·.streamed u)) (f.streamed u)).2.hosts = (performAll rs f).2.hosts ∧
      ∀ v s, ((performAll (rs.map (·.streamed u)) (f.streamed u)).2.workspace v).deviceBytes s =
        ((performAll rs f).2.workspace v).deviceBytes s := by
  obtain ⟨hos, h⟩ := (mirrors_streamed u f hquiet).performAll hf.sound hr hq hg
  exact ⟨hos, h.hosts, h.deviceBytes⟩

/-- A buffer that is copied, changed, and copied again. -/
theorem copyOnce_agrees_edited :
    let f := single "g" none [.filled (.scalar .uint8) 2 (7 : UInt8)]
    let rs : List (Request Unit Unit) := [.call () (.copyIn [⟨0⟩]), .call () .execute,
      .host (.overwrite ⟨0⟩ [1]), .call () .execute, .call () .execute]
    Reachable Kernel.idle f ∧ ValidAll Kernel.idle rs f ∧
      ((performAll (rs.map (·.streamed ())) (f.streamed ())).2.workspace ()).deviceBytes ⟨0⟩ =
        some #[1, 7] := by
  intro f rs
  have hf : Reachable Kernel.idle f := start_single.reachable
  have hr : ValidAll Kernel.idle rs f :=
    ⟨⟨by simp [Command.buffers, HostMemory.Has, f, single], nofun⟩, ⟨nofun, nofun⟩, trivial,
      ⟨nofun, nofun⟩, ⟨nofun, nofun⟩, trivial⟩
  have hg : ((performAll rs f).2.graph ()).Separate := Graph.separate_of_kinds (by decide)
  have h := copyOnce_agrees hf hr hg (fun _ => rfl) (by simp [rs, Request.Quiet])
  refine ⟨hf, hr, ?_⟩
  rw [h.2.2 () ⟨0⟩]
  decide

/-- A graph that is out of device memory names the node that asked for it, and nodes that copy
once have other names than nodes that copy always. -/
theorem copyOnce_names_differ :
    let f := single "g" (some 0) [.filled (.scalar .uint8) 1 (7 : UInt8)]
    let rs : List (Request Unit Unit) := [.call () (.copyIn [⟨0⟩]), .call () .execute]
    Reachable Kernel.idle f ∧ ValidAll Kernel.idle rs f ∧
      ((performAll rs f).2.graph ()).Separate ∧
      (∀ n, (f.context (f.home ())).device.faults .upload n = false) ∧
      (∀ r ∈ rs, r.Quiet (f.home ())) ∧
      (performAll rs f).1 ≠ (performAll (rs.map (·.streamed ())) (f.streamed ())).1 := by
  intro f rs
  exact ⟨start_single.reachable,
    ⟨⟨by simp [Command.buffers, HostMemory.Has, f, single], nofun⟩, ⟨nofun, nofun⟩, trivial⟩,
    Graph.separate_of_kinds (by decide), fun _ => rfl, by simp [rs, Request.Quiet], by decide⟩

end Fleet

end Offload
