import Offload.Proofs.Readiness
import Offload.Proofs.Surroundings

/-!
# Warming up

A graph may have its memory allocated and its kernels compiled before it runs. Nobody sees a
difference then, other than that the runs that follow have nothing to allocate and nothing to
compile.

* `Fleet.Unnoticed` — nothing has changed that anybody had made or written.
* `Incident.Spares` — what leaves a graph ready to run; `Fleet.ready_becomes` says that it does.
* `Fleet.warmup_is_invisible` — what a warm-up does, and what it saves.
-/

namespace Offload

open Step

/-! ### What leaves a graph ready -/

/-- A user's graph is built no further, none of its buffers is exchanged, it is not disposed of, and
others forget no programs of its device. -/
def Incident.Spares {ι δ : Type} (u : ι) (f : Fleet ι δ) : Incident ι δ → Prop
  | request (.call v c) => v = u → c.spares = true
  | request _ => True
  | elsewhere d x => d = f.home u →
    ∀ key, ((f.context d).program? key).isSome = true → (x.program? key).isSome = true

namespace Fleet

variable {ι δ : Type} [DecidableEq ι] [DecidableEq δ] {κ : KernelId → Kernel}
  {f f' g : Fleet ι δ} {u : ι}

omit [DecidableEq ι] in
/-- A graph stays ready while somebody else changes a device. -/
theorem ready_setContext {d : δ} {x : Context} (h : (f.site u).Ready)
    (ht : x.device.target = (f.context d).device.target)
    (hp : d = f.home u →
      ∀ key, ((f.context d).program? key).isSome = true → (x.program? key).isSome = true) :
    ((f.setContext d x).site u).Ready := by
  refine h.of_programs rfl fun k hk => ?_
  show Preparation.Done ((f.setContext d x).workspace u) _
  rw [workspace_setContext]
  by_cases hd : f.home u = d
  · subst hd
    rw [if_pos rfl]
    refine Option.isSome_iff_exists.mp ?_
    rw [Workspace.key, Workspace.device]
    dsimp only
    rw [ht]
    exact hp rfl _ (Option.isSome_iff_exists.mpr hk)
  · rw [if_neg hd]
    exact hk

/-- No request makes a device forget programs. -/
theorem program_perform {r : Request ι δ} (hf : f.Sound κ) (hr : r.Valid κ f) {k : Kernel}
    (h : Preparation.Done (f.workspace u) (.program k)) :
    Preparation.Done ((r.perform f).2.workspace u) (.program k) := by
  have hupdate : ∀ d c,
      ((∃ q, (f.context d).program? ⟨k.id, (f.context d).device.target⟩ = some q) →
        ∃ q, c.program? ⟨k.id, c.device.target⟩ = some q) →
      ∃ q, (Function.update f.context d c (f.home u)).program?
        ⟨k.id, (Function.update f.context d c (f.home u)).device.target⟩ = some q := fun d c hc =>
    (Function.forall_update_iff f.context fun d c =>
      (∃ q, (f.context d).program? ⟨k.id, (f.context d).device.target⟩ = some q) →
        ∃ q, c.program? ⟨k.id, c.device.target⟩ = some q).mpr ⟨hc, fun d _ hk => hk⟩ (f.home u) h
  cases r with
  | host a => exact h
  | configure d faults capacity => exact hupdate d _ fun hk => hk
  | call v c => exact hupdate (f.home v) _ (Command.done_program_run (hf.site v) hr)

/-- A graph stays ready while another one is used. -/
theorem ready_call {v : ι} {c : Command} (hf : f.Sound κ) (hc : c.Valid κ f.hosts) (hv : u ≠ v)
    (h : (f.site u).Ready) : (((Request.call v c).perform f).2.site u).Ready :=
  h.of_programs (graph_setSite_ne f hv _) fun _ => program_perform (r := .call v c) hf hc

/-- What spares a graph leaves it ready. -/
theorem ready_happen {i : Incident ι δ} (hf : f.Sound κ) (h : (f.site u).Ready)
    (hi : i.Valid κ f) (hs : i.Spares u f) : ((i.happen f).site u).Ready := by
  cases i with
  | elsewhere d x => exact ready_setContext h hi.2.target hs
  | request r =>
    cases r with
    | host a => exact h.of_programs rfl fun _ hk => hk
    | configure d faults capacity =>
      exact h.of_programs rfl fun _ => program_perform (r := .configure d faults capacity) hf hi
    | call v c =>
      by_cases hv : v = u
      · subst hv
        rw [Incident.happen, Request.perform, site_setSite_self]
        exact h.run (hs rfl)
      · exact ready_call hf hi (Ne.symm hv) h

/-- As long as it is spared, a graph that is ready stays so. -/
theorem ready_becomes (h : Becomes κ (Incident.Spares u) f f') (hf : f.Sound κ)
    (hr : (f.site u).Ready) : (f'.site u).Ready := by
  induction h with
  | refl => exact hr
  | step h i hi hs ih => exact ready_happen (h.sound hf) ih hi hs

/-! ### What nobody notices -/

/-- Nothing has changed that anybody had made or written: host memory, the graphs but for their
phases and for slots that had no device memory, and the memory of the devices as far as it was on
loan. -/
structure Unnoticed (f g : Fleet ι δ) : Prop where
  /-- the host buffers -/
  hosts : g.hosts = f.hosts
  /-- the graphs -/
  graph : ∀ v, g.graph v =
    { f.graph v with table := (g.graph v).table, phase := (g.graph v).phase }
  /-- slots that had device memory -/
  slot : ∀ v slot id, (f.graph v).table.block? slot = some id →
    (g.graph v).table.get slot = (f.graph v).table.get slot
  /-- what they hold -/
  bytes : ∀ v slot xs, (f.workspace v).deviceBytes slot = some xs →
    (g.workspace v).deviceBytes slot = some xs
  /-- all memory on loan -/
  lends : ∀ d id b, (f.context d).device.pool.Lends id b → (g.context d).device.pool.Lends id b

/-- A warm-up is not noticed. -/
theorem unnoticed_warmup {s : Site} (hf : f.Sound κ)
    (h : Graph.warmup (f.site u) = (.ok (), s)) : Unnoticed f (f.setSite u s) := by
  obtain ⟨hahead, -, -, hgraph⟩ := Graph.ahead_of_warmup (hf.site u) h
  have hveil := Workspace.veil_ahead Workspace.veil_eq (f.graph u).preparations
  have hlends : ∀ d id b, (f.context d).device.pool.Lends id b →
      ((f.setSite u s).context d).device.pool.Lends id b := by
    refine (Function.forall_update_iff f.context fun d c =>
      ∀ id b, (f.context d).device.pool.Lends id b → c.device.pool.Lends id b).mpr ⟨?_, ?_⟩
    · exact hahead.keeps.lends
    · exact fun d _ id b hb => hb
  have hslot : ∀ v slot id, (f.graph v).table.block? slot = some id →
      ((f.setSite u s).graph v).table.get slot = (f.graph v).table.get slot := by
    refine (Function.forall_update_iff f.graph fun v g => ∀ slot id,
      (f.graph v).table.block? slot = some id →
        g.table.get slot = (f.graph v).table.get slot).mpr ⟨?_, ?_⟩
    · exact fun slot id hid => hveil.slot _ _ slot id hahead hid
    · exact fun v _ slot id _ => rfl
  constructor
  case hosts => exact hveil.hosts _ _ hahead
  case graph =>
    refine (Function.forall_update_iff f.graph fun v g =>
      g = { f.graph v with table := g.table, phase := g.phase }).mpr ⟨hgraph, fun v _ => rfl⟩
  case slot => exact hslot
  case bytes =>
    intro v slot xs hxs
    rcases hid : (f.graph v).table.block? slot with _ | id
    · have hnone : (f.workspace v).deviceBytes slot = none := by
        simp only [Workspace.deviceBytes, workspace, site, Site.workspace, hid, Option.bind_none,
          Option.map_none]
      rw [hnone] at hxs
      cases hxs
    · obtain ⟨b, hb, -⟩ := (hf.site v).workspace.lends hid
      have hid' : ((f.setSite u s).workspace v).table.block? slot = some id :=
        (congrArg (fun x : Slot => x.allocation.bind Allocation.block) (hslot v slot id hid)).trans
          hid
      rw [Workspace.deviceBytes_of_lends hid' (hlends (f.home v) id b hb), ← hxs]
      exact (Workspace.deviceBytes_of_lends hid hb).symm
  case lends => exact hlends

/-! ### What comes after -/

/-- A warm-up that succeeds, as the graph sees it. -/
theorem warmup_inv {n : Nat} (h : (Request.call u .warmup).perform f = (.ok n, g)) :
    ∃ s, Graph.warmup (f.site u) = (.ok (), s) ∧ g = f.setSite u s := by
  obtain ⟨hn, hg⟩ := Prod.mk.inj h
  rw [Command.run, bind_pure_apply] at hn
  rw [Command.run, snd_bind_pure] at hg
  rcases hrun : Graph.warmup (f.site u) with ⟨e | x, s⟩ <;> rw [hrun] at hn hg
  · cases hn
  · exact ⟨s, rfl, hg.symm⟩

/-- A run after a warm-up comes to what it would have come to without. -/
theorem execute_of_warmup {s : Site} {o o' : Except GraphError Nat} {g' : Fleet ι δ}
    (hf : f.Sound κ) (h : Graph.warmup (f.site u) = (.ok (), s))
    (hrun : (Request.call u .execute).perform f = (o, f'))
    (hrun' : (Request.call u .execute).perform (f.setSite u s) = (o', g')) :
    o' = o ∧ g'.hosts = f'.hosts ∧
      g'.graph u = { f'.graph u with table := (g'.graph u).table } ∧
      ((∃ run, o = .ok run) → g' = f') := by
  obtain ⟨hahead, hlive, hlive', hgraph⟩ := Graph.ahead_of_warmup (hf.site u) h
  have hlags : Site.Lags Eq (f.graph u).preparations (f.graph u).preparations (fun _ => False)
      (f.site u).begun s.begun := by
    refine ⟨?_, hahead, fun _ hp => hp, fun _ => False.elim⟩
    rw [Site.OnlySlots, Site.begun, Site.begun, Site.withGraph, Site.withGraph, hgraph]
  have hagrees := hlags.execute Workspace.veil_eq (hf.built u) hlive hlive'
  have hcall : (Request.call u .execute).perform (f.setSite u s) =
      ((Graph.execute s).1, f.setSite u (Graph.execute s).2) := by
    have hrun : Command.execute.run ((f.setSite u s).site u) =
        ((Graph.execute s).1, (Graph.execute s).2) := by
      rw [site_setSite_self]
      rfl
    rw [perform_call hrun, setSite_setSite]
  rw [hcall] at hrun'
  rcases hs : Graph.execute (f.site u) with ⟨r, s₁⟩
  rcases ht : Graph.execute s with ⟨r', t₁⟩
  rw [perform_call (c := .execute) hs] at hrun
  rw [hs, ht] at hagrees
  rw [ht] at hrun'
  cases hrun
  cases hrun'
  simp only [graph_setSite_self]
  cases hagrees with
  | ok hagrees =>
    obtain ⟨rfl, hend⟩ := hagrees
    obtain rfl := Site.eq_of_onlySlots hend.graph (Eq.symm hend.ahead)
    exact ⟨rfl, rfl, rfl, fun _ => rfl⟩
  | error hagrees =>
    obtain ⟨rfl, ps, hend⟩ := hagrees
    refine ⟨rfl, (Workspace.veil_ahead Workspace.veil_eq ps).hosts _ _ hend.ahead, hend.graph, ?_⟩
    rintro ⟨_, ⟨⟩⟩

omit [DecidableEq ι] [DecidableEq δ] in
/-- A warm-up leaves its graph ready. -/
theorem ready_of_warmup {s : Site} (hf : f.Sound κ)
    (h : Graph.warmup (f.site u) = (.ok (), s)) : s.Ready := by
  obtain ⟨hahead, -, -, hgraph⟩ := Graph.ahead_of_warmup (hf.site u) h
  intro p hp
  rw [hgraph] at hp
  exact hahead.done p hp

/-- A warm-up that succeeds is not noticed. A run that follows it has the outcome that it would have
had without, and leaves the same host memory and the same graph but for slots; if it succeeds, all
is the same. From then on, as long as nodes are not added, no buffer is exchanged, the graph is not
disposed of and no programs are forgotten, runs of the graph ask neither the allocator nor the
compiler for anything. -/
theorem warmup_is_invisible {n : Nat} (hf : Attained κ f)
    (h : (Request.call u .warmup).perform f = (.ok n, g)) :
    Unnoticed f g ∧
      (∀ o o' f' g', (Request.call u .execute).perform f = (o, f') →
        (Request.call u .execute).perform g = (o', g') →
        o' = o ∧ g'.hosts = f'.hosts ∧
          g'.graph u = { f'.graph u with table := (g'.graph u).table } ∧
          ((∃ run, o = .ok run) → g' = f')) ∧
      ∀ f₁, Becomes κ (Incident.Spares u) g f₁ →
        (((Request.call u .execute).perform f₁).2.context (f₁.home u)).books =
          (f₁.context (f₁.home u)).books ∧
        ∀ x, Graph.execute ((f₁.site u).withBooks x) =
          ((Graph.execute (f₁.site u)).1, (Graph.execute (f₁.site u)).2.withBooks x) := by
  have hsound := hf.sound
  have hsound' : g.Sound κ := by
    have hperform := hsound.perform (r := .call u .warmup) ⟨nofun, nofun⟩
    rwa [h] at hperform
  obtain ⟨s, hwarm, rfl⟩ := warmup_inv h
  refine ⟨unnoticed_warmup hsound hwarm, fun o o' f' g' => execute_of_warmup hsound hwarm,
    fun f₁ hf₁ => ?_⟩
  have hready : ((f.setSite u s).site u).Ready := by
    rw [site_setSite_self]
    exact ready_of_warmup hsound hwarm
  have hready₁ := ready_becomes hf₁ hsound' hready
  have hbuilt := (hf₁.sound hsound').built u
  refine ⟨?_, hready₁.execute_withBooks hbuilt⟩
  have hcontext := Function.update_self (f₁.home u) (Graph.execute (f₁.site u)).2.machine.context
    f₁.context
  exact (congrArg Context.books hcontext).trans (hready₁.books_execute hbuilt)

/-- A copy to the device, a task and a copy back are prepared under a limit. -/
theorem warmup_is_invisible_task :
    let f₀ := single "g" (some 16) [.filled (.scalar .uint8) 2 (1 : UInt8)]
    let k := Kernel.idle ⟨0⟩
    let rs : List (Request Unit Unit) := [.call () (.streamIn [⟨0⟩]), .call () (.task "t" k []),
      .call () (.streamOut [⟨0⟩])]
    let f := (performAll rs f₀).2
    let g := ((Request.call () .warmup).perform f).2
    Attained Kernel.idle f ∧ (Request.call () .warmup).perform f = (.ok 0, g) ∧
      Unnoticed f g ∧
      (Request.call () .execute).perform g = (Request.call () .execute).perform f := by
  intro f₀ k rs f g
  have h₀ : Start f₀ := start_single
  have hr : ValidAll Kernel.idle rs f₀ := by
    have hmade : f₀.hosts.Has ⟨0⟩ := by simp [HostMemory.Has, f₀, single]
    refine h₀.sound.validAll ?_
    simp only [rs, List.forall_mem_cons]
    refine ⟨⟨?_, ?_⟩, ⟨?_, ?_⟩, ⟨?_, ?_⟩, List.forall_mem_nil _⟩
    · simp [Command.buffers, hmade]
    · rintro _ _ _ ⟨⟩
    · simp [Command.buffers, Graph.argBuffers]
    · rintro _ _ _ ⟨⟩
      rfl
    · simp [Command.buffers, hmade]
    · rintro _ _ _ ⟨⟩
  have hf : Attained Kernel.idle f := Reachable.attained ⟨f₀, rs, h₀, hr, rfl⟩
  have hn : ((Request.call () .warmup).perform f).1 = .ok 0 := by decide +kernel
  have hrun : (Request.call () .warmup).perform f = (.ok 0, g) := Prod.ext hn rfl
  obtain ⟨hunnoticed, hexecute, -⟩ := warmup_is_invisible hf hrun
  obtain ⟨ho, -, -, hg⟩ := hexecute _ _ _ _ (Prod.eta _).symm (Prod.eta _).symm
  have hdone : ((Request.call () .execute).perform f).1 = .ok 1 := by decide +kernel
  exact ⟨hf, hrun, hunnoticed, Prod.ext ho (hg ⟨1, hdone⟩)⟩

end Fleet

end Offload
