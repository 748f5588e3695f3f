import Offload.Proofs.Lifecycle
import Offload.Proofs.Warmup

/-!
# What a warm-up is worth later

A graph that was warmed up is called warm until it is run or disposed of, and may be changed in the
meantime: nodes are added to it, and buffers in its slots are exchanged. What the warm-up has seen
to is seen to still, except for the memory of slots whose buffer was exchanged for one of another
size. Nobody sees to anything for nodes that were added.

* `Command.Resizes`, `Fleet.Resized` — the buffer in a slot is exchanged for one of another size.
* `Command.room_run` — nothing else takes the memory of a slot, while its graph is not disposed of.
* `Fleet.warmed_perform` — only a warm-up makes a graph warm.
* `Fleet.prepared_of_warmed` — what can be relied on in a graph that is warm.
-/

namespace Offload

open Step

/-! ### One call -/

/-- The call exchanges the buffer in a slot for one of another size. -/
def Command.Resizes (s : Site) (slot : SlotId) (c : Command) : Prop :=
  ∃ old new, c = .rebind old new ∧ (c.run s).1 = .ok 0 ∧ s.graph.table.slotOf? old = some slot ∧
    (s.machine.hosts.get new).byteLen ≠ (s.machine.hosts.get old).byteLen

/-- Another buffer of the same size takes over the memory of a slot. Other slots are left alone. -/
theorem Workspace.block?_rebound {w : Workspace} {old new : HostId} {s slot : SlotId}
    (h : slot = s → (w.hosts.get new).byteLen = (w.host s).byteLen) :
    (w.rebound old new s).table.block? slot = w.table.block? slot := by
  rw [rebound]
  split
  · exact SlotTable.block?_set (by rfl) slot
  · rename_i hsize
    have hne : slot ≠ s := fun he => hsize (h he)
    exact congrArg (fun x : Slot => x.allocation.bind Allocation.block) (SlotTable.get_set_ne hne)

namespace Command

variable {κ : KernelId → Kernel} {c : Command} {s : Site} {slot : SlotId}

/-- A slot keeps its memory until its buffer is exchanged for one of another size, or the graph is
disposed of. -/
theorem room_run (hs : s.Sound κ) (hc : c.Valid κ s.machine.hosts)
    (hlive : (c.run s).2.graph.phase ≠ .disposed) (hsize : ¬ c.Resizes s slot)
    (h : Preparation.Done s.workspace (.room slot)) :
    Preparation.Done (c.run s).2.workspace (.room slot) := by
  cases hspares : c.spares with
  | true => exact retains_of_spares hspares s _ h
  | false =>
    obtain ⟨id, hid⟩ := h
    refine ⟨id, ?_⟩
    cases hadds : c.adds with
    | true =>
      rcases run_of_adds hadds s with ⟨e, hrun⟩ | ⟨name, a, t, hadd, hrun⟩ <;> rw [hrun]
      · exact hid
      · -- a slot that is there is the same in a table that has grown
        obtain ⟨buffers, -, rfl⟩ := hadd.exists_bindAll
        have hold := (SlotTable.grows_bindAll buffers s.graph.table).old slot
          (Workspace.has_of_block? hid)
        exact (congrArg (fun x : Slot => x.allocation.bind Allocation.block) hold).trans hid
    | false =>
      cases c with
      | rebind old new =>
        rcases run_rebind old new s with ⟨e, hrun⟩ | ⟨slot', hold, -, hrun⟩ <;> rw [hrun]
        · exact hid
        · refine (Workspace.block?_rebound fun he => ?_).trans hid
          subst he
          have hhost : s.workspace.host slot = s.machine.hosts.get old :=
            congrArg s.machine.hosts.get (hs.workspace.table.host_of_slotOf? hold)
          rw [hhost]
          exact Classical.byContradiction fun hne =>
            hsize ⟨old, new, rfl, congrArg Prod.fst hrun, hold, hne⟩
      | dispose =>
        simp only [run, Graph.dispose] at hlive ⊢
        split
        · exact hid
        · rename_i hphase
          rw [if_neg hphase] at hlive
          exact absurd rfl hlive
      | _ => simp [spares, adds] at hspares hadds

end Command

/-- Only a warm-up allocates and compiles in advance. -/
theorem Entry.warms_call {c : Command} {o : Except GraphError Reply}
    (h : warms ⟨.call c, o⟩ = true) : c = .warmup ∧ ∃ x, o = .ok x := by
  cases c <;> cases o <;> first | exact ⟨rfl, _, rfl⟩ | cases h

/-- There is device memory for the buffer in a slot. -/
def Site.Houses (s : Site) (slot : SlotId) : Prop :=
  ∃ a, (s.graph.table.get slot).allocation = some a ∧
    a.Fits s.workspace.pool (s.workspace.host slot)

/-- There is a program of a kernel. -/
def Site.Compiled (s : Site) (k : Kernel) : Prop :=
  ∃ p, s.machine.context.program? ⟨k.id, s.machine.context.device.target⟩ = some p ∧ p.kernel = k

namespace Site

variable {κ : KernelId → Kernel} {s : Site} {slot : SlotId} {k : Kernel}

theorem Sound.houses (hs : s.Sound κ) (h : Preparation.Done s.workspace (.room slot)) :
    s.Houses slot := by
  obtain ⟨id, hid⟩ := h
  obtain ⟨a, ha, -⟩ := Workspace.block?_eq_some.mp hid
  exact ⟨a, ha, hs.workspace.room slot a ha⟩

theorem Sound.compiled (hs : s.Sound κ) (hk : κ k.id = k)
    (h : Preparation.Done s.workspace (.program k)) : s.Compiled k := by
  obtain ⟨p, hp⟩ := h
  exact ⟨p, hp, (hs.programs.kernel _ p hp).trans hk⟩

end Site

/-! ### Requests -/

/-- The request has the buffer in a slot of a user exchanged for one of another size. -/
def Request.Resizes {ι δ : Type} (f : Fleet ι δ) (u : ι) (slot : SlotId) : Request ι δ → Prop
  | call v c => v = u ∧ c.Resizes (f.site u) slot
  | _ => False

namespace Fleet

variable {ι δ : Type} [DecidableEq ι] [DecidableEq δ]

/-- One of the requests has the buffer in a slot of a user exchanged for one of another size. -/
def Resized (u : ι) (slot : SlotId) : List (Request ι δ) → Fleet ι δ → Prop
  | [], _ => False
  | r :: rs, f => r.Resizes f u slot ∨ Resized u slot rs (r.perform f).2

variable {κ : KernelId → Kernel} {f f₀ g : Fleet ι δ} {u : ι} {r : Request ι δ}
  {rs rs₁ rs₂ : List (Request ι δ)} {slot : SlotId}

/-- A request leaves the graph of a user as it is, unless it is a call of that graph. -/
theorem lives_perform (r : Request ι δ) (f : Fleet ι δ) (u : ι) :
    (r.perform f).2.graph u = f.graph u ∨ ∃ c, r = .call u c ∧
      (f.graph u).Lives ⟨.call c, (r.perform f).1.map .number⟩ ((r.perform f).2.graph u) := by
  cases r with
  | host a => exact .inl rfl
  | configure d faults capacity => exact .inl rfl
  | call v c =>
    by_cases hv : u = v
    · subst hv
      refine .inr ⟨c, rfl, ?_⟩
      have hlives := Graph.lives_run (.call c) (f.site u)
      rw [Use.run_call] at hlives
      rw [Request.perform, graph_setSite_self]
      exact hlives
    · exact .inl (graph_setSite_ne f hv _)

/-- A graph is never found running. -/
theorem phase_perform_ne_executing (h : (f.graph u).phase ≠ .executing) :
    ((r.perform f).2.graph u).phase ≠ .executing := by
  rcases lives_perform r f u with hsame | ⟨c, -, hlives⟩
  · rw [hsame]
    exact h
  · rw [hlives.phase h]
    exact Phase.next_ne_executing _ _

/-- Only a warm-up makes a graph warm. -/
theorem warmed_perform (h : (f.graph u).phase ≠ .executing)
    (hwarm : ((r.perform f).2.graph u).phase = .warmed) :
    (f.graph u).phase = .warmed ∨
      r = .call u .warmup ∧ ∃ n, r.perform f = (.ok n, (r.perform f).2) := by
  rcases lives_perform r f u with hsame | ⟨c, rfl, hlives⟩
  · exact .inl (hsame ▸ hwarm)
  · rw [hlives.phase h, Phase.next] at hwarm
    split at hwarm
    · cases hwarm
    split at hwarm
    · cases hwarm
    split at hwarm
    · rename_i hcase
      refine hcase.imp_right fun hwarms => ?_
      obtain ⟨rfl, x, hx⟩ := Entry.warms_call hwarms
      rcases ho : ((Request.call u .warmup).perform f).1 with e | n <;> rw [ho] at hx
      · cases hx
      · exact ⟨rfl, n, Prod.ext ho rfl⟩
    · split at hwarm <;> cases hwarm

/-- A graph that was disposed of stays so. -/
theorem disposed_performAll (rs : List (Request ι δ)) (h : (f.graph u).phase = .disposed) :
    ((performAll rs f).2.graph u).phase = .disposed := by
  induction rs generalizing f with
  | nil => exact h
  | cons r rs ih =>
    have hstep : ((r.perform f).2.graph u).phase = .disposed := by
      rcases lives_perform r f u with hsame | ⟨c, -, hlives⟩
      · rw [hsame]
        exact h
      · rw [hlives.phase (by rw [h]; nofun), Phase.next, if_pos (.inl h)]
    exact ih hstep

/-- Requests may be carried out in two goes. -/
theorem performAll_append (rs₁ rs₂ : List (Request ι δ)) (f : Fleet ι δ) :
    (performAll (rs₁ ++ rs₂) f).2 = (performAll rs₂ (performAll rs₁ f).2).2 := by
  induction rs₁ generalizing f with
  | nil => rfl
  | cons r rs₁ ih => exact ih (r.perform f).2

theorem validAll_append :
    ValidAll κ (rs₁ ++ rs₂) f ↔ ValidAll κ rs₁ f ∧ ValidAll κ rs₂ (performAll rs₁ f).2 := by
  induction rs₁ generalizing f with
  | nil => exact ⟨fun h => ⟨trivial, h⟩, And.right⟩
  | cons r rs₁ ih => exact (and_congr_right' ih).trans and_assoc.symm

/-! ### What lasts -/

/-- A slot keeps its memory until its buffer is exchanged for one of another size, or the graph is
disposed of. -/
theorem room_perform (hf : f.Sound κ) (hr : r.Valid κ f)
    (hlive : ((r.perform f).2.graph u).phase ≠ .disposed) (hsize : ¬ r.Resizes f u slot)
    (h : Preparation.Done (f.workspace u) (.room slot)) :
    Preparation.Done ((r.perform f).2.workspace u) (.room slot) := by
  cases r with
  | host a => exact h
  | configure d faults capacity => exact h
  | call v c =>
    by_cases hv : u = v
    · subst hv
      rw [Request.perform, graph_setSite_self] at hlive
      rw [Request.perform, workspace, site_setSite_self]
      exact Command.room_run (hf.site u) hr hlive (fun h => hsize ⟨rfl, h⟩) h
    · obtain ⟨id, hid⟩ := h
      have hsame : ((Request.call v c).perform f).2.graph u = f.graph u := graph_setSite_ne f hv _
      exact ⟨id, (congrArg (fun g : Graph => g.table.block? slot) hsame).trans hid⟩

theorem program_performAll (hf : f.Sound κ) (hr : ValidAll κ rs f) {k : Kernel}
    (h : Preparation.Done (f.workspace u) (.program k)) :
    Preparation.Done ((performAll rs f).2.workspace u) (.program k) := by
  induction rs generalizing f with
  | nil => exact h
  | cons r rs ih => exact ih (hf.perform hr.1) hr.2 (program_perform hf hr.1 h)

theorem room_performAll (hf : f.Sound κ) (hr : ValidAll κ rs f)
    (hlive : ((performAll rs f).2.graph u).phase ≠ .disposed)
    (h : Preparation.Done (f.workspace u) (.room slot)) :
    Preparation.Done ((performAll rs f).2.workspace u) (.room slot) ∨ Resized u slot rs f := by
  induction rs generalizing f with
  | nil => exact .inl h
  | cons r rs ih =>
    by_cases hsize : r.Resizes f u slot
    · exact .inr (.inl hsize)
    · have hlive' : ((r.perform f).2.graph u).phase ≠ .disposed := fun hd =>
        hlive (disposed_performAll rs hd)
      have hroom := room_perform hf hr.1 hlive' hsize h
      exact (ih (hf.perform hr.1) hr.2 hlive hroom).imp_right .inr

/-- A graph that is warm was warmed up. -/
theorem exists_warmup (h : (f.graph u).phase ≠ .executing)
    (hwarm : ((performAll rs f).2.graph u).phase = .warmed) :
    (f.graph u).phase = .warmed ∨ ∃ rs₁ rs₂ n g, rs = rs₁ ++ .call u .warmup :: rs₂ ∧
      (Request.call u .warmup).perform (performAll rs₁ f).2 = (.ok n, g) := by
  induction rs generalizing f with
  | nil => exact .inl hwarm
  | cons r rs ih =>
    rcases ih (phase_perform_ne_executing h) hwarm with hfirst | ⟨rs₁, rs₂, n, g, rfl, hrun⟩
    · rcases warmed_perform h hfirst with hold | ⟨rfl, n, hrun⟩
      · exact .inl hold
      · exact .inr ⟨[], rs, n, _, rfl, hrun⟩
    · exact .inr ⟨r :: rs₁, rs₂, n, g, rfl, hrun⟩

/-- A graph is warm. Then it was warmed up, and whenever that was, and whatever has happened since,
this is left of it, as far as the nodes go that the graph had then: every kernel of a task has a
program, and there is device memory that fits for the buffer in every slot, unless the buffer in
the slot was exchanged for one of another size since. Nothing is said about nodes that were added
later. -/
theorem prepared_of_warmed (h₀ : Start f₀) (hr : ValidAll κ rs f₀)
    (hwarm : ((performAll rs f₀).2.graph u).phase = .warmed) :
    (∃ rs₁ rs₂ n g, rs = rs₁ ++ .call u .warmup :: rs₂ ∧
      (Request.call u .warmup).perform (performAll rs₁ f₀).2 = (.ok n, g)) ∧
    ∀ rs₁ rs₂ n g, rs = rs₁ ++ .call u .warmup :: rs₂ →
      (Request.call u .warmup).perform (performAll rs₁ f₀).2 = (.ok n, g) →
      (g.graph u).nodes <+: ((performAll rs f₀).2.graph u).nodes ∧
      ∀ node ∈ (g.graph u).nodes,
        (∀ k args, node.action = .task k args → ((performAll rs f₀).2.site u).Compiled k) ∧
        ∀ slot ∈ node.action.slots,
          ((performAll rs f₀).2.site u).Houses slot ∨ Resized u slot rs₂ g := by
  have hphase : (f₀.graph u).phase = .unbuilt := by
    obtain ⟨name, hu⟩ := h₀.graph u
    rw [hu]
    rfl
  refine ⟨?_, ?_⟩
  · refine (exists_warmup (by rw [hphase]; nofun) hwarm).resolve_left fun hw => ?_
    rw [hphase] at hw
    cases hw
  · rintro rs₁ rs₂ n g rfl hrun
    obtain ⟨hr₁, hcall, hr₂⟩ := validAll_append.mp hr
    have hf₁ := h₀.sound.performAll hr₁
    have hg : g.Sound κ := by
      have hperform := hf₁.perform hcall
      rwa [hrun] at hperform
    have hend : (performAll (rs₁ ++ .call u .warmup :: rs₂) f₀).2 = (performAll rs₂ g).2 := by
      rw [performAll_append]
      exact congrArg (fun x => (performAll rs₂ x).2) (congrArg Prod.snd hrun)
    rw [hrun] at hr₂
    rw [hend] at hwarm ⊢
    have hlive : ((performAll rs₂ g).2.graph u).phase ≠ .disposed := by
      rw [hwarm]
      nofun
    have hsound := (hg.performAll hr₂).site u
    -- what was seen to then
    have hready : (g.site u).Ready := by
      obtain ⟨s, hwarmup, rfl⟩ := warmup_inv hrun
      rw [site_setSite_self]
      exact ready_of_warmup hf₁ hwarmup
    refine ⟨(hg.growsAll hr₂ u).2, fun node hnode => ⟨fun k args ha => ?_, fun slot hslot => ?_⟩⟩
    · have hk : κ k.id = k := by
        have hknown := hg.known u node hnode
        rwa [ha] at hknown
      have hdone := hready (.program k) (List.mem_flatMap.mpr ⟨node, hnode, by
        simp [Action.preparations, Action.kernels, ha]⟩)
      exact hsound.compiled hk (program_performAll hg hr₂ hdone)
    · have hdone := hready (.room slot) (List.mem_flatMap.mpr ⟨node, hnode, by
        simp [Action.preparations, hslot]⟩)
      exact (room_performAll hg hr₂ hlive hdone).imp_left hsound.houses

/-- A buffer is copied to the device, which is prepared, and then another one. -/
theorem prepared_of_warmed_added :
    let f₀ := single "g" none
      [.filled (.scalar .uint8) 2 (1 : UInt8), .filled (.scalar .uint8) 3 (2 : UInt8)]
    let rs : List (Request Unit Unit) := [.call () (.streamIn [⟨0⟩]), .call () .warmup,
      .call () (.streamIn [⟨1⟩])]
    let f := (performAll rs f₀).2
    Reachable Kernel.idle f ∧ (f.graph ()).phase = .warmed ∧ (f.site ()).Houses ⟨0⟩ := by
  intro f₀ rs f
  have h₀ : Start f₀ := start_single
  have hr : ValidAll Kernel.idle rs f₀ := by
    have hmade : f₀.hosts.Has ⟨0⟩ ∧ f₀.hosts.Has ⟨1⟩ := by simp [HostMemory.Has, f₀, single]
    refine h₀.sound.validAll ?_
    simp only [rs, List.forall_mem_cons]
    refine ⟨⟨?_, ?_⟩, ⟨?_, ?_⟩, ⟨?_, ?_⟩, List.forall_mem_nil _⟩
    · simp [Command.buffers, hmade]
    · rintro _ _ _ ⟨⟩
    · simp [Command.buffers]
    · rintro _ _ _ ⟨⟩
    · simp [Command.buffers, hmade]
    · rintro _ _ _ ⟨⟩
  have hwarm : (f.graph ()).phase = .warmed := by decide
  obtain ⟨-, hleft⟩ := prepared_of_warmed (u := ()) h₀ hr hwarm
  obtain ⟨-, hnodes⟩ := hleft [.call () (.streamIn [⟨0⟩])] [.call () (.streamIn [⟨1⟩])] 0 _ rfl
    (Prod.ext (by decide) rfl)
  refine ⟨⟨f₀, rs, h₀, hr, rfl⟩, hwarm, ?_⟩
  refine ((hnodes _ List.mem_cons_self).2 ⟨0⟩ List.mem_cons_self).resolve_right ?_
  rintro (⟨-, old, new, h, -⟩ | h)
  · cases h
  · exact h

/-- A graph is warm when a task was added to it that has no program, and when a buffer was put into
its slot that there is no device memory for. -/
theorem warmed_unprepared :
    let f₀ := single "g" none
      [.filled (.scalar .uint8) 2 (1 : UInt8), .filled (.scalar .uint8) 3 (2 : UInt8)]
    let k := Kernel.idle ⟨0⟩
    let rs : List (Request Unit Unit) := [.call () (.streamIn [⟨0⟩]), .call () .warmup,
      .call () (.task "t" k []), .call () (.rebind ⟨0⟩ ⟨1⟩)]
    let f := (performAll rs f₀).2
    Reachable Kernel.idle f ∧ (f.graph ()).phase = .warmed ∧
      (∃ node ∈ (f.graph ()).nodes, ⟨0⟩ ∈ node.action.slots ∧
        ((f.graph ()).table.get ⟨0⟩).allocation = none) ∧
      ∃ node ∈ (f.graph ()).nodes, node.action = .task k [] ∧
        ((f.context ()).program? ⟨k.id, (f.context ()).device.target⟩).isNone := by
  intro f₀ k rs f
  have h₀ : Start f₀ := start_single
  have hr : ValidAll Kernel.idle rs f₀ := by
    have hmade : f₀.hosts.Has ⟨0⟩ ∧ f₀.hosts.Has ⟨1⟩ := by simp [HostMemory.Has, f₀, single]
    refine h₀.sound.validAll ?_
    simp only [rs, List.forall_mem_cons]
    refine ⟨⟨?_, ?_⟩, ⟨?_, ?_⟩, ⟨?_, ?_⟩, ⟨?_, ?_⟩, List.forall_mem_nil _⟩
    · simp [Command.buffers, hmade]
    · rintro _ _ _ ⟨⟩
    · simp [Command.buffers]
    · rintro _ _ _ ⟨⟩
    · simp [Command.buffers, Graph.argBuffers]
    · rintro _ _ _ ⟨⟩
      rfl
    · simp [Command.buffers, hmade]
    · rintro _ _ _ ⟨⟩
  exact ⟨⟨f₀, rs, h₀, hr, rfl⟩, by decide, ⟨_, List.mem_cons_self, List.mem_cons_self, by decide⟩,
    _, List.mem_cons_of_mem _ List.mem_cons_self, rfl, by decide⟩

end Fleet

end Offload
