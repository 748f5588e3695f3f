import Offload.Proofs.Fleet
import Offload.Proofs.Ownership
import Offload.Proofs.Renaming

/-!
# Building a graph again

The calls that have added nodes to a graph are made again for a new graph, each with the buffers
that are in the slots of the first graph by now in place of the buffers that were passed then. The
new graph has the same nodes about the same slots, with the buffers in them that the first graph
has now.

* `Site.Replica` — how far the new graph has come.
* `Site.Replica.run` — one more call.
* `Fleet.replay` — the calls to be made; `Fleet.Sound.replay` says what they lead to.
-/

namespace Offload

open Step

/-! ### A graph that is built again -/

/-- The graph of `t` has the nodes of `g` about the same slots, which have the buffers that they
have in `T`. -/
structure Site.Replica (κ : KernelId → Kernel) (T : SlotTable) (m : Machine) (g : Graph)
    (t : Site) : Prop where
  /-- the site is sound -/
  sound : t.Sound κ
  /-- nothing was done on the machine -/
  machine : t.machine = m
  /-- the graph was not disposed of -/
  live : t.graph.phase ≠ .disposed
  /-- the graphs have the same name -/
  name : t.graph.name = g.name
  /-- the nodes are the same -/
  nodes : t.graph.nodes = g.nodes
  /-- so are the slots, but for their buffers -/
  slots : SlotTable.Shadows T g.table t.graph.table

namespace Site.Replica

variable {κ : KernelId → Kernel} {T : SlotTable} {m : Machine} {g : Graph} {s s' t : Site}
  {ρ : HostId → HostId}

/-- One more node on either side. -/
theorem push {t₁ t₂ : SlotTable} {name : String} {a : Action} (h : Replica κ T m g t)
    (hs : SlotTable.Shadows T t₁ t₂)
    (ht : Site.Sound κ ⟨t.machine, { t.graph with table := t₂ }.push name a⟩) :
    Replica κ T m ({ g with table := t₁ }.push name a)
      ⟨t.machine, { t.graph with table := t₂ }.push name a⟩ where
  sound := ht
  machine := h.machine
  live := by
    rw [Graph.push]
    dsimp only
    split
    · decide
    · exact h.live
  name := h.name
  nodes := by
    rw [Graph.push, Graph.push, h.nodes]
  slots := hs

/-- What is done to the first graph and leaves its nodes and slots alone goes unnoticed. -/
theorem of_keeps (h : Replica κ T m s.graph t) (hk : Command.Keeps s s')
    (hname : s'.graph.name = s.graph.name) : Replica κ T m s'.graph t where
  sound := h.sound
  machine := h.machine
  live := h.live
  name := h.name.trans hname.symm
  nodes := h.nodes.trans hk.1.symm
  slots :=
    { inverse := h.slots.inverse
      size := h.slots.size.trans (SlotTable.size_of_has hk.2).symm
      host := fun slot hs => h.slots.host slot ((hk.2 slot).mp hs) }

theorem nextName (h : Replica κ T m g t) (kind : NodeKind) :
    t.graph.nextName kind = g.nextName kind := by
  rw [Graph.nextName, Graph.nextName, h.nodes]

/-- One more node about buffers, which have slots from then on. -/
theorem bound {kind : NodeKind} {action : List SlotId → Action} {bs : List HostId}
    (h : Replica κ T m g t) (hg : g.table.Inverse) (hT : T.Inverse)
    (hgrow : ∀ slot, (Graph.bound kind action bs g).table.Has slot → T.Has slot)
    (hρ : SlotTable.Renames T (Graph.bound kind action bs g).table ρ)
    (ht : (t.withGraph (Graph.bound kind action (bs.map ρ))).Sound κ) :
    Replica κ T m (Graph.bound kind action bs g)
      (t.withGraph (Graph.bound kind action (bs.map ρ))) := by
  obtain ⟨hslots, htables⟩ := h.slots.bindAll hg hT hgrow hρ
  have hbound : Graph.bound kind action (bs.map ρ) t.graph =
      { t.graph with table := (t.graph.table.bindAll (bs.map ρ)).2 }.push (g.nextName kind)
        (action (g.table.bindAll bs).1) := by
    rw [Graph.bound, h.nextName, hslots]
  rw [Site.withGraph, hbound] at ht ⊢
  exact h.push htables ht

/-- One more task. -/
theorem tasked {name : String} {k : Kernel} {args : List Arg} (h : Replica κ T m g t)
    (hg : g.table.Inverse) (hT : T.Inverse)
    (hgrow : ∀ slot, (Graph.tasked name k args g).table.Has slot → T.Has slot)
    (hρ : SlotTable.Renames T (Graph.tasked name k args g).table ρ)
    (ht : (t.withGraph (Graph.tasked name k (args.map (.rename ρ)))).Sound κ) :
    Replica κ T m (Graph.tasked name k args g)
      (t.withGraph (Graph.tasked name k (args.map (.rename ρ)))) := by
  obtain ⟨hslots, htables⟩ := Graph.shadows_bindArgs h.slots hg hT hgrow hρ
  have htasked : Graph.tasked name k (args.map (.rename ρ)) t.graph =
      { t.graph with table := (Graph.bindArgs t.graph.table (args.map (.rename ρ))).2 }.push name
        (.task k (Graph.bindArgs g.table args).1) := by
    rw [Graph.tasked, hslots]
  rw [Site.withGraph, htasked] at ht ⊢
  exact h.push htables ht

/-- One more node about slots that are there already. -/
theorem append {name name' : String} {a : Action} (h : Replica κ T m g t) (hn : name' = name)
    (ht : (t.withGraph (·.push name' a)).Sound κ) :
    Replica κ T m (g.push name a) (t.withGraph (·.push name' a)) := by
  subst hn
  exact h.push h.slots ht

/-- The slot of a buffer is that of the one in its place. -/
theorem slotOf? (h : Replica κ T m g t) (hg : g.table.Inverse)
    (hρ : SlotTable.Renames T g.table ρ) (b : HostId) (slot : SlotId)
    (hb : g.table.slotOf? b = some slot) : t.graph.table.slotOf? (ρ b) = some slot := by
  rw [hρ b slot hb]
  exact h.slots.slotOf? hg hb

/-- The arguments of a task are accepted with the buffers that are in the slots by now. -/
theorem checkArgs {node : String} {k : Kernel} {args : List Arg} (h : Replica κ T m s.graph t)
    (hs : s.Sound κ) (hρ : SlotTable.Renames T (Graph.bindArgs s.graph.table args).2 ρ)
    (htype : ∀ b ∈ Graph.argBuffers args,
      (m.hosts.get (ρ b)).type = (s.machine.hosts.get b).type)
    (hc : Graph.checkArgs s node k args = .ok ()) :
    Graph.checkArgs t node k (args.map (.rename ρ)) = .ok () := by
  have hρ₀ : SlotTable.Renames T s.graph.table ρ := fun b slot hb => by
    refine hρ b slot ?_
    rw [Graph.snd_bindArgs]
    exact SlotTable.slotOf?_bindAll_of_some hb
  exact Graph.checkArgs_rename (h.slotOf? hs.workspace.table hρ₀)
    (fun b hb => by rw [h.machine]; exact htype b hb) hc

theorem qualified (h : Replica κ T m g t) (node : String) :
    t.graph.qualified node = g.qualified node := by
  rw [Graph.qualified, Graph.qualified, h.name]

/-- A call that has added a node to the first graph adds the same node to the other one. -/
theorem run {c : Command} {o : Nat} (h : Replica κ T m s.graph t) (hs : s.Sound κ)
    (hadds : c.adds = true) (hc : c.Valid κ s.machine.hosts) (hrun : c.run s = (.ok o, s'))
    (hT : T.Inverse) (hgrow : ∀ slot, s'.graph.table.Has slot → T.Has slot)
    (hρ : SlotTable.Renames T s'.graph.table ρ)
    (htype : ∀ b ∈ c.buffers, (m.hosts.get (ρ b)).type = (s.machine.hosts.get b).type)
    (hmade : ∀ b ∈ c.buffers, m.hosts.Has (ρ b)) :
    ((c.rename ρ).run t).1 = .ok 0 ∧ Replica κ T m s'.graph ((c.rename ρ).run t).2 := by
  -- the call is valid for the other graph, too, which stays sound whatever comes out
  have hsound := (Command.advances_run h.sound
    (hc.rename fun b hb => by rw [h.machine]; exact hmade b hb)).1
  cases c with
  | streamIn bs =>
    rw [Command.run, bind_pure_apply, Graph.streamIn, Graph.addBinding_apply] at hrun
    rw [Command.rename, Command.run, bind_pure_apply, Graph.streamIn, Graph.addBinding_apply,
      if_neg h.live] at hsound ⊢
    split at hrun <;> cases hrun
    exact ⟨rfl, h.bound hs.workspace.table hT hgrow hρ hsound⟩
  | copyIn bs =>
    rw [Command.run, bind_pure_apply, Graph.copyIn, Graph.addBinding_apply] at hrun
    rw [Command.rename, Command.run, bind_pure_apply, Graph.copyIn, Graph.addBinding_apply,
      if_neg h.live] at hsound ⊢
    split at hrun <;> cases hrun
    exact ⟨rfl, h.bound hs.workspace.table hT hgrow hρ hsound⟩
  | task name k args =>
    rw [Command.run, bind_pure_apply, Graph.task_apply] at hrun
    rw [Command.rename, Command.run, bind_pure_apply, Graph.task_apply, if_neg h.live,
      h.qualified] at hsound ⊢
    split at hrun
    · cases hrun
    · split at hrun <;> cases hrun
      rename_i hcheck
      rw [h.checkArgs hs hρ htype hcheck] at hsound ⊢
      exact ⟨rfl, h.tasked hs.workspace.table hT hgrow hρ hsound⟩
  | streamOut bs =>
    rw [Command.run, bind_pure_apply, Graph.streamOut_apply] at hrun
    rw [Command.rename, Command.run, bind_pure_apply, Graph.streamOut_apply, if_neg h.live,
      h.nextName, h.qualified] at hsound ⊢
    split at hrun
    · cases hrun
    · split at hrun <;> cases hrun
      rename_i hslots
      rw [Graph.boundSlots_rename h.slots hs.workspace.table hρ hslots] at hsound ⊢
      exact ⟨rfl, h.append rfl hsound⟩
  | barrier =>
    rw [Command.run, bind_pure_apply, Graph.barrier_apply] at hrun
    rw [Command.rename, Command.run, bind_pure_apply, Graph.barrier_apply,
      if_neg h.live] at hsound ⊢
    split at hrun <;> cases hrun
    exact ⟨rfl, h.append (h.nextName .barrier) hsound⟩
  | _ => cases hadds

end Site.Replica

/-! ### The calls of a history -/

/-- The call to be made again for a request: the call that has added a node to the graph of `u`,
with the buffers that `T` has in the slots of those that were passed. -/
def Request.again {ι δ : Type} [DecidableEq ι] (u : ι) (T : SlotTable) :
    Request ι δ → Fleet ι δ → Option Command
  | .call v c, f => match c.run (f.site v) with
    | (.ok _, s) =>
      if v = u ∧ c.adds = true then some (c.rename (T.successor s.graph.table)) else none
    | (.error _, _) => none
  | .host _, _ => none
  | .configure _ _ _, _ => none

/-- The calls to be made again for a history. -/
def Fleet.replay {ι δ : Type} [DecidableEq ι] [DecidableEq δ] (u : ι) (T : SlotTable) :
    List (Request ι δ) → Fleet ι δ → List Command
  | [], _ => []
  | r :: rs, f => (r.again u T f).toList ++ replay u T rs (r.perform f).2

namespace Command

theorem runAll_cons (c : Command) (cs : List Command) (s : Site) :
    runAll (c :: cs) s =
      ((c.run s).1 :: (runAll cs (c.run s).2).1, (runAll cs (c.run s).2).2) := rfl

/-- Some calls and then others. -/
theorem runAll_append (cs cs' : List Command) (s : Site) :
    runAll (cs ++ cs') s =
      ((runAll cs s).1 ++ (runAll cs' (runAll cs s).2).1, (runAll cs' (runAll cs s).2).2) := by
  induction cs generalizing s with
  | nil => rfl
  | cons c cs ih =>
    rw [List.cons_append, runAll_cons, runAll_cons, ih]
    rfl

end Command

namespace Fleet

variable {ι δ : Type} [DecidableEq ι] [DecidableEq δ] {κ : KernelId → Kernel} {T : SlotTable}
  {m : Machine} {f : Fleet ι δ} {u : ι} {t : Site}

/-- What is known of the buffers that a graph is built again with: `T` has all slots of the graph
of `u`, and a buffer of the type of each slot. -/
structure Fits (T : SlotTable) (m : Machine) (f : Fleet ι δ) (u : ι) : Prop where
  /-- the slots are there -/
  has : ∀ slot, (f.graph u).table.Has slot → T.Has slot
  /-- with buffers of their types -/
  type : ∀ slot, (f.graph u).table.Has slot →
    (m.hosts.get (T.get slot).host).type = ((f.workspace u).host slot).type

/-- Where nothing is to be made again. -/
theorem made_none {g : Graph} {c : Option Command} (hc : c = none)
    (h : Site.Replica κ T m g t) :
    (∀ o ∈ (Command.runAll c.toList t).1, o = .ok 0) ∧
      Site.Replica κ T m g (Command.runAll c.toList t).2 := by
  subst hc
  exact ⟨fun o ho => absurd ho List.not_mem_nil, h⟩

/-- Where one call is made again. -/
theorem made_some {g : Graph} {c : Option Command} {c' : Command} (hc : c = some c')
    (h : (c'.run t).1 = .ok 0 ∧ Site.Replica κ T m g (c'.run t).2) :
    (∀ o ∈ (Command.runAll c.toList t).1, o = .ok 0) ∧
      Site.Replica κ T m g (Command.runAll c.toList t).2 := by
  subst hc
  refine ⟨?_, h.2⟩
  intro o ho
  rw [Option.toList_some, Command.runAll_cons] at ho
  exact (List.mem_singleton.mp ho).trans h.1

omit [DecidableEq δ] in
theorem again_of_error {v : ι} {c : Command} {e : GraphError} {s' : Site}
    (hrun : c.run (f.site v) = (.error e, s')) : (Request.call v c).again u T f = none := by
  rw [Request.again, hrun]

omit [DecidableEq δ] in
theorem again_of_ok {v : ι} {c : Command} {n : Nat} {s' : Site}
    (hrun : c.run (f.site v) = (.ok n, s')) :
    (Request.call v c).again u T f =
      if v = u ∧ c.adds = true then some (c.rename (T.successor s'.graph.table)) else none := by
  rw [Request.again, hrun]

/-- A call of the one graph, and what is made again of it for the other. -/
theorem Sound.againCall {c : Command} (hf : f.Sound κ) (hr : c.Valid κ f.hosts)
    (h : Site.Replica κ T m (f.graph u) t) (hT : T.Inverse)
    (hmade : ∀ slot, T.Has slot → m.hosts.Has (T.get slot).host)
    (hfits : Fits T m ((Request.call u c).perform f).2 u) :
    (∀ o ∈ (Command.runAll ((Request.call u c).again u T f).toList t).1, o = .ok 0) ∧
      Site.Replica κ T m (((Request.call u c).perform f).2.graph u)
        (Command.runAll ((Request.call u c).again u T f).toList t).2 := by
  have hsite := hf.site u
  have hadvances := Command.advances_run hsite hr
  rcases hrun : c.run (f.site u) with ⟨o, s'⟩
  rw [hrun] at hadvances
  have hgraph : (f.setSite u s').graph u = s'.graph := graph_setSite_self f u s'
  have hworkspace : (f.setSite u s').workspace u = s'.workspace := by
    rw [Fleet.workspace, site_setSite_self]
  rw [perform_call hrun] at hfits ⊢
  obtain ⟨hhas, htype⟩ := hfits
  dsimp only at hhas htype ⊢
  rw [hgraph] at hhas htype ⊢
  rw [hworkspace] at htype
  cases hadds : c.adds with
  | false =>
    have hkeeps := Command.keeps_run_of_not_adds hadds (f.site u)
    rw [hrun] at hkeeps
    refine made_none ?_ (h.of_keeps (s := f.site u) hkeeps hadvances.2.name)
    rcases o with e | n
    · exact again_of_error hrun
    · rw [again_of_ok hrun, hadds]
      exact if_neg fun h => Bool.noConfusion h.2
  | true =>
    rcases Command.adds_inv hadds hrun with ⟨e, rfl, rfl⟩ | ⟨rfl, hmachine, hbound⟩
    · exact made_none (again_of_error hrun) h
    · have hinverse : s'.graph.table.Inverse := hadvances.1.workspace.table
      have hρ := SlotTable.renames_successor T s'.graph.table
      have hagain := again_of_ok (u := u) (T := T) hrun
      rw [if_pos ⟨rfl, hadds⟩] at hagain
      refine made_some hagain (h.run hsite hadds hr hrun hT hhas hρ ?_ ?_)
      · intro b hb
        -- the slot has had this buffer just now, and keeps its type
        obtain ⟨slot, hslot⟩ := hbound b hb
        have hb' := htype slot (hinverse.has_of_slotOf? hslot)
        have hhost : (s'.graph.table.get slot).host = b := hinverse.host_of_slotOf? hslot
        rw [hρ b slot hslot, hb', ← hmachine, ← hhost]
        rfl
      · intro b hb
        obtain ⟨slot, hslot⟩ := hbound b hb
        rw [hρ b slot hslot]
        exact hmade slot (hhas slot (hinverse.has_of_slotOf? hslot))

/-- A request for the one graph, and what is made again of it for the other. -/
theorem Sound.again {r : Request ι δ} (hf : f.Sound κ) (hr : r.Valid κ f)
    (h : Site.Replica κ T m (f.graph u) t) (hT : T.Inverse)
    (hmade : ∀ slot, T.Has slot → m.hosts.Has (T.get slot).host)
    (hfits : Fits T m (r.perform f).2 u) :
    (∀ o ∈ (Command.runAll (r.again u T f).toList t).1, o = .ok 0) ∧
      Site.Replica κ T m ((r.perform f).2.graph u)
        (Command.runAll (r.again u T f).toList t).2 := by
  cases r with
  | host a => exact made_none rfl h
  | configure d faults capacity => exact made_none rfl h
  | call v c =>
    by_cases hv : v = u
    · subst hv
      exact hf.againCall hr h hT hmade hfits
    · rcases hrun : c.run (f.site v) with ⟨o, s'⟩
      have hgraph : (f.setSite v s').graph u = f.graph u := graph_setSite_ne f (Ne.symm hv) s'
      rw [perform_call hrun]
      dsimp only
      rw [hgraph]
      refine made_none ?_ h
      rcases o with e | n
      · exact again_of_error hrun
      · rw [again_of_ok hrun]
        exact if_neg fun h => hv h.1

/-- A history, and what is made again of it. All of it succeeds. -/
theorem Sound.replay {rs : List (Request ι δ)} (hf : f.Sound κ) (hr : ValidAll κ rs f)
    (h : Site.Replica κ T m (f.graph u) t) (hT : T.Inverse)
    (hmade : ∀ slot, T.Has slot → m.hosts.Has (T.get slot).host)
    (hfits : Fits T m (Fleet.performAll rs f).2 u) :
    (∀ o ∈ (Command.runAll (replay u T rs f) t).1, o = .ok 0) ∧
      Site.Replica κ T m ((Fleet.performAll rs f).2.graph u)
        (Command.runAll (replay u T rs f) t).2 := by
  -- both graphs move: `f` to the state after the request, `t` by what is made again of it
  induction rs generalizing f t with
  | nil => exact ⟨fun o ho => absurd ho List.not_mem_nil, h⟩
  | cons r rs ih =>
    have hf₁ := hf.perform hr.1
    have hadvances := hf₁.advancesAll hr.2
    -- slots keep their types, so the buffers fit now if they fit in the end
    have hfits₁ : Fits T m (r.perform f).2 u :=
      { has := fun slot hslot => hfits.has slot (hadvances.has u slot hslot)
        type := fun slot hslot => (hfits.type slot (hadvances.has u slot hslot)).trans
          (hadvances.type u slot hslot) }
    obtain ⟨hfirst, h₁⟩ := hf.again hr.1 h hT hmade hfits₁
    obtain ⟨hrest, h₂⟩ := ih hf₁ hr.2 h₁ hfits
    rw [replay, Command.runAll_append]
    exact ⟨fun o ho => (List.mem_append.mp ho).elim (hfirst o) (hrest o), h₂⟩

end Fleet

end Offload
