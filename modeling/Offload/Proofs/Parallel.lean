import Offload.Proofs.Mirror

/-!
# The same calls of two graphs

Whatever is asked of a graph that copies what is stale, and of one that copies always, has the same
outcome. Only the names differ that nodes of the two kinds have in errors.

* `Graph.matches_execute`, `Graph.matches_warmup` — runs, and what is done in advance.
* `Graph.Mirrors.push` — graphs that are built in parallel.
* `Command.matches_run` — any call.
-/

namespace Offload

open Step

variable {Q T : Prop} {s t : Site} {κ : KernelId → Kernel}

namespace Graph

/-! ### Runs of the two graphs -/

/-- Both runs end in the same way. -/
theorem matches_runAll (hTQ : T → Q) (run : Nat) (h : Site.Mirrors Q T s t) (hs : s.Sound κ)
    (hc : T → Sheltered s s.graph.nodes.zipIdx) :
    Matches (fun _ _ s t => Site.Mirrors Q T s t)
      (fun e e' s' t => ErrorMirrors T s.graph.name s.graph.nodes.zipIdx e e' ∧
        Site.Mirrors Q T s' t)
      (runAll run s) (runAll run t) := by
  have hnodes := matches_each (κ := κ) (f := runNode run) h.graph.nodes h hs
    (fun p hp => List.fst_mem_of_mem_zipIdx hp) hc
    (fun n hn s hW => follows_runNode run hn hW s)
    fun p n' hp s t h hs hmem hc => matches_runNode hTQ run hp h hs hmem hc
  rw [List.zipIdx_map_fst] at hnodes
  rw [runAll_apply, runAll_apply, h.graph.qualified]
  refine hnodes.bind ?_
  intro _ _ s₁ t₁ _ _ h₁
  exact (agree_synchronizeDevice _ h₁).mono (fun _ _ _ _ h => h.2)
    fun _ _ _ _ h => ⟨.inl h.1.symm, h.2⟩

theorem matches_execute (hTQ : T → Q) (h : Site.Mirrors Q T s t) (hs : s.Sound κ)
    (hc : T → Sheltered s s.graph.nodes.zipIdx) :
    Matches (fun a b s t => b = a ∧ Site.Mirrors Q T s t)
      (fun e e' s' t => ErrorMirrors T s.graph.name s.graph.nodes.zipIdx e e' ∧
        Site.Mirrors Q T s' t)
      (execute s) (execute t) := by
  rw [execute_apply, execute_apply, h.graph.phase, h.graph.name, h.graph.runs]
  split
  · exact .error ⟨.inl rfl, h⟩
  · have hrun := matches_runAll (κ := κ) hTQ (s.graph.runs + 1)
      (s := s.withGraph ({ · with phase := .executing }))
      (t := t.withGraph ({ · with phase := .executing }))
      (h.withGraph _ _ ⟨h.graph.name, h.graph.table, h.graph.nodes, rfl, h.graph.runs⟩)
      (hs.withGraph rfl rfl) hc
    rcases hl : runAll (s.graph.runs + 1) (s.withGraph ({ · with phase := .executing }))
      with ⟨r, s'⟩
    rcases hr : runAll (s.graph.runs + 1) (t.withGraph ({ · with phase := .executing }))
      with ⟨r', t'⟩
    rw [hl, hr] at hrun
    cases hrun with
    | ok h' => exact .ok ⟨rfl, h'.withGraph _ _
        ⟨h'.graph.name, h'.graph.table, h'.graph.nodes, rfl, rfl⟩⟩
    | error h' => exact .error ⟨h'.1, h'.2.withGraph _ _
        ⟨h'.2.graph.name, h'.2.graph.table, h'.2.graph.nodes, rfl, h'.2.graph.runs⟩⟩

/-! ### Preparation of the two graphs -/

/-- The slots of a node are provided with memory on either side. -/
theorem matches_warmSlots (node node' : String) (slots : List SlotId) (h : Site.Mirrors Q T s t)
    (hs : s.Sound κ) :
    Matches (fun _ _ s t => Site.Mirrors Q T s t)
      (fun e e' s t => OutOfMemory node node' e e' ∧ Site.Mirrors Q T s t)
      (Step.each slots (fun slot => do
        let _ ← inNode node .transfer (Workspace.ensureAllocated slot)) s)
      (Step.each slots (fun slot => do
        let _ ← inNode node' .transfer (Workspace.ensureAllocated slot)) t) := by
  induction slots generalizing s t with
  | nil => exact .ok h
  | cons slot r ih =>
    have hroom := matches_inNode node node' h (Workspace.agree_ensureAllocated h.workspace slot)
      fun e => Workspace.ensureAllocated_error hs.workspace
    have hslot : Matches (fun (_ _ : Unit) s t => Site.Mirrors Q T s t)
        (fun e e' s t => OutOfMemory node node' e e' ∧ Site.Mirrors Q T s t)
        ((inNode node .transfer (Workspace.ensureAllocated slot) >>= fun _ => pure ()) s)
        ((inNode node' .transfer (Workspace.ensureAllocated slot) >>= fun _ => pure ()) t) :=
      hroom.bind fun _ _ _ _ _ _ h => .ok h
    refine hslot.bind fun _ _ s₁ t₁ hleft _ h₁ => ih h₁ ?_
    have hprogress := follows_ensureAllocated (κ := κ) (W := fun _ => False) node .transfer slot s
    exact Site.Progress.sound (hleft ▸ hprogress) hs

theorem agree_warmNode (n : Node) (h : Site.Mirrors Q T s t) :
    Agree (Site.Mirrors Q T) (warmNode n s) (warmNode n t) := by
  rw [warmNode_apply, warmNode_apply, h.graph.qualified]
  refine (Agree.each h fun slot _ s t h => (agree_ensureAllocated _ .transfer slot h).bind
    fun _ s₁ t₁ h₁ => .ok () h₁).bind ?_
  intro _ s₁ t₁ h₁
  cases n.action with
  | task k args => exact (agree_compile _ k h₁).bind fun _ s₂ t₂ h₂ => .ok () h₂
  | _ => exact .ok () h₁

theorem matches_warmNode {p : Node × Nat} {n' : Node} (hp : Node.Mirrors T p n')
    (h : Site.Mirrors Q T s t) (hs : s.Sound κ) :
    Matches (fun _ _ s t => Site.Mirrors Q T s t)
      (fun e e' s' t => ErrorMirrors T s.graph.name [p] e e' ∧ Site.Mirrors Q T s' t)
      (warmNode p.1 s) (warmNode n' t) := by
  have hsame : Matches (fun _ _ s t => Site.Mirrors Q T s t)
      (fun e e' s' t => ErrorMirrors T s.graph.name [p] e e' ∧ Site.Mirrors Q T s' t)
      (warmNode p.1 s) (warmNode p.1 t) :=
    (agree_warmNode p.1 h).mono (fun _ _ _ _ h => h.2) fun _ _ _ _ h => ⟨.inl h.1.symm, h.2⟩
  rcases hp with rfl | ⟨hT, rfl⟩
  · exact hsame
  · rcases p.1.streamed_cases p.2 with ⟨slots, ha, ha'⟩ | hstreamed
    · have hslots := matches_warmSlots (s.graph.qualified p.1.name)
        (s.graph.qualified (p.1.streamed p.2).name) slots h hs
      rw [warmNode_apply, warmNode_apply, h.graph.qualified, ha, ha']
      refine Matches.bind (hslots.mono (fun _ _ _ _ h => h) fun e e' _ _ he =>
        ⟨.inr ⟨hT, p, List.mem_cons_self, ⟨slots, ha⟩, he.1⟩, he.2⟩) fun _ _ _ _ _ _ h₁ => .ok h₁
    · rw [hstreamed]
      exact hsame

theorem matches_warmup (h : Site.Mirrors Q T s t) (hs : s.Sound κ)
    (hc : T → Sheltered s s.graph.nodes.zipIdx) :
    Matches (fun _ _ s t => Site.Mirrors Q T s t)
      (fun e e' s' t => ErrorMirrors T s.graph.name s.graph.nodes.zipIdx e e' ∧
        Site.Mirrors Q T s' t)
      (warmup s) (warmup t) := by
  rw [warmup, ensureLive_bind, ensureLive_bind, h.graph.phase, h.graph.name]
  split
  · exact .error ⟨.inl rfl, h⟩
  · have hnodes := matches_each (κ := κ) (f := warmNode) h.graph.nodes h hs
      (fun p hp => List.fst_mem_of_mem_zipIdx hp) hc (fun n hn s _ => follows_warmNode hn s)
      fun p n' hp s t h hs _ _ => matches_warmNode hp h hs
    rw [List.zipIdx_map_fst] at hnodes
    refine hnodes.bind fun _ _ s₁ t₁ _ _ h₁ => .ok ⟨h₁.context, h₁.hosts, ?_⟩
    dsimp only
    rw [h₁.graph.phase]
    split
    · exact ⟨h₁.graph.name, h₁.graph.table, h₁.graph.nodes, rfl, h₁.graph.runs⟩
    · exact h₁.graph

/-! ### Other calls of the two graphs -/

theorem agree_synchronize (buffers : List HostId) (h : Site.Mirrors Q T s t) :
    Agree (Site.Mirrors Q T) (synchronize buffers s) (synchronize buffers t) := by
  rw [synchronize, ensureLive_bind, ensureLive_bind, h.graph.phase, h.graph.name]
  split
  · exact .error _ h
  · refine Agree.get_bind ?_
    have hslots : ∀ node, t.graph.boundSlots node buffers = s.graph.boundSlots node buffers :=
      fun node => by rw [boundSlots, boundSlots, h.graph.table]
    rw [h.graph.qualified, hslots]
    refine (Agree.lift h _).bind fun slots s₁ t₁ h₁ => .each h₁ ?_
    intro slot _ s t h
    exact Agree.mapError (m := Site.onWorkspace (Workspace.download slot))
      (n := Site.onWorkspace (Workspace.download slot))
      (agree_onWorkspace h (Workspace.agree_download h.workspace slot)) _

theorem agree_rebind (old new : HostId) (h : Site.Mirrors Q T s t) :
    Agree (Site.Mirrors Q T) (rebind old new s) (rebind old new t) := by
  have hrebind := Workspace.agree_rebind h.workspace old new
  have herror : ∀ e, t.graph.rebindError e = s.graph.rebindError e := fun e => by
    cases e <;> simp only [rebindError, h.graph.qualified, h.graph.name]
  rw [rebind_apply, rebind_apply, h.graph.phase, h.graph.name]
  split
  · exact .error _ h
  · rcases hl : Workspace.rebind old new s.workspace with ⟨r, w⟩
    rcases hr : Workspace.rebind old new t.workspace with ⟨r', w'⟩
    rw [hl, hr] at hrebind
    cases hrebind with
    | ok hw => exact .ok () (h.setWorkspace hw.2)
    | error hw =>
      obtain ⟨rfl, hw⟩ := hw
      dsimp only
      rw [herror]
      exact .error _ (h.setWorkspace hw)

theorem agree_clearProfile (h : Site.Mirrors Q T s t) :
    Agree (Site.Mirrors Q T) (clearProfile s) (clearProfile t) := by
  rw [clearProfile_apply, clearProfile_apply, h.graph.phase, h.graph.name]
  split
  · exact .error _ h
  · exact .ok () (h.withGraph ({ · with profile := .empty }) ({ · with profile := .empty })
      ⟨h.graph.name, h.graph.table, h.graph.nodes, h.graph.phase, h.graph.runs⟩)

theorem mirrors_dispose (h : Site.Mirrors Q T s t) : Site.Mirrors Q T (dispose s) (dispose t) := by
  rw [dispose, dispose, h.graph.phase]
  split
  · exact h
  · have hrelease := h.setWorkspace h.workspace.releaseAll
    exact hrelease.withGraph ({ · with phase := .disposed }) ({ · with phase := .disposed })
      ⟨hrelease.graph.name, hrelease.graph.table, hrelease.graph.nodes, rfl, hrelease.graph.runs⟩

/-! ### Building the two graphs -/

variable {g g' : Graph}

theorem Mirrors.length (h : Mirrors T g g') : g'.nodes.length = g.nodes.length := by
  rw [← h.nodes.length_eq, List.length_zipIdx]

/-- One more node on either side. -/
theorem Mirrors.push (h : Mirrors T g g') {t t' : SlotTable} (ht : t' = t) {name name' : String}
    {a a' : Action} (hn : Node.Mirrors T (⟨name, a⟩, g.nodes.length) ⟨name', a'⟩) :
    Mirrors T ({ g with table := t }.push name a) ({ g' with table := t' }.push name' a') where
  name := h.name
  table := ht
  nodes := by
    rw [Graph.push, Graph.push, List.zipIdx_append]
    refine List.rel_append h.nodes (.cons ?_ .nil)
    rw [Nat.zero_add]
    exact hn
  phase := by rw [Graph.push, Graph.push, h.phase]
  runs := h.runs

theorem Mirrors.nextName (h : Mirrors T g g') (k : NodeKind) : g'.nextName k = g.nextName k := by
  rw [Graph.nextName, Graph.nextName, h.length]

/-- Buffers that are copied on every run, or when they are stale. -/
theorem agree_addBinding {kind kind' : NodeKind} {action action' : List SlotId → Action}
    (buffers : List HostId) (h : Site.Mirrors Q T s t)
    (hn : ∀ slots, Node.Mirrors T (⟨s.graph.nextName kind, action slots⟩, s.graph.nodes.length)
      ⟨s.graph.nextName kind', action' slots⟩) :
    Agree (Site.Mirrors Q T) (addBinding kind action buffers s)
      (addBinding kind' action' buffers t) := by
  rw [addBinding_apply, addBinding_apply, h.graph.phase, h.graph.name]
  split
  · exact .error _ h
  · refine .ok () (h.withGraph (bound kind action buffers) (bound kind' action' buffers) ?_)
    rw [bound, bound, h.graph.table, h.graph.nextName]
    exact h.graph.push rfl (hn _)

theorem agree_streamOut (buffers : List HostId) (h : Site.Mirrors Q T s t) :
    Agree (Site.Mirrors Q T) (streamOut buffers s) (streamOut buffers t) := by
  have hslots : ∀ node, t.graph.boundSlots node buffers = s.graph.boundSlots node buffers :=
    fun node => by rw [boundSlots, boundSlots, h.graph.table]
  rw [streamOut_apply, streamOut_apply, h.graph.phase, h.graph.name, h.graph.nextName,
    h.graph.qualified, hslots]
  split
  · exact .error _ h
  · split
    · exact .error _ h
    · exact .ok () (h.withGraph _ _ (h.graph.push h.graph.table (.inl rfl)))

/-- An argument is acceptable or not whatever has been recorded. -/
theorem checkArg_of_mirrors (h : Site.Mirrors Q T s t) (node : String) (index : Nat) (p : Param)
    (a : Arg) : checkArg t node index p a = checkArg s node index p a := by
  unfold checkArg
  rw [h.hosts, h.graph.table]

theorem checkArgsFrom_of_mirrors (h : Site.Mirrors Q T s t) (node : String) (index : Nat)
    (ps : List Param) (args : List Arg) :
    checkArgsFrom t node index ps args = checkArgsFrom s node index ps args := by
  induction ps generalizing index args with
  | nil => rfl
  | cons p ps ih =>
    cases args with
    | nil => rfl
    | cons a args =>
      rw [checkArgsFrom, checkArgsFrom, checkArg_of_mirrors h, ih]

theorem agree_task (name : String) (k : Kernel) (args : List Arg) (h : Site.Mirrors Q T s t) :
    Agree (Site.Mirrors Q T) (task name k args s) (task name k args t) := by
  have hcheck : ∀ node, checkArgs t node k args = checkArgs s node k args := fun node => by
    rw [checkArgs, checkArgs, checkArgsFrom_of_mirrors h]
  rw [task_apply, task_apply, h.graph.phase, h.graph.name, h.graph.qualified, hcheck]
  split
  · exact .error _ h
  · split
    · exact .error _ h
    · refine .ok () (h.withGraph (tasked name k args) (tasked name k args) ?_)
      rw [tasked, tasked, h.graph.table]
      exact h.graph.push rfl (.inl rfl)

theorem agree_barrier (h : Site.Mirrors Q T s t) :
    Agree (Site.Mirrors Q T) (barrier s) (barrier t) := by
  rw [barrier_apply, barrier_apply, h.graph.phase, h.graph.name]
  split
  · exact .error _ h
  · refine .ok () (h.withGraph (fun g => g.push (g.nextName .barrier) .barrier)
      (fun g => g.push (g.nextName .barrier) .barrier) ?_)
    rw [h.graph.nextName]
    exact h.graph.push h.graph.table (.inl rfl)

end Graph

/-! ### Calls -/

namespace Command

/-- The same call, but what is added copies always. -/
def streamed : Command → Command
  | copyIn buffers => streamIn buffers
  | c => c

/-- The result of a call with zero in place of it. -/
theorem agree_bind_zero {m n : Step GraphError Site Unit}
    (h : Agree (Site.Mirrors Q T) (m s) (n t)) :
    Agree (Site.Mirrors Q T) ((m >>= fun _ => (pure 0 : Step GraphError Site Nat)) s)
      ((n >>= fun _ => (pure 0 : Step GraphError Site Nat)) t) :=
  h.bind fun _ _ _ h => .ok 0 h

/-- One call of the one graph and of the other. The outcomes are the same up to the names of
nodes that copy. -/
theorem matches_run (hTQ : T → Q) {c c' : Command} (hc : c' = c ∨ T ∧ c' = c.streamed)
    (h : Site.Mirrors Q T s t) (hs : s.Sound κ)
    (hclean : T → Graph.Sheltered s s.graph.nodes.zipIdx) :
    Matches (fun a b s t => b = a ∧ Site.Mirrors Q T s t)
      (fun e e' s' t => Graph.ErrorMirrors T s.graph.name s.graph.nodes.zipIdx e e' ∧
        Site.Mirrors Q T s' t)
      (c.run s) (c'.run t) := by
  have hsame : ∀ {x y : Except GraphError Nat × Site}, Agree (Site.Mirrors Q T) x y →
      Matches (fun a b s t => b = a ∧ Site.Mirrors Q T s t)
        (fun e e' s' t => Graph.ErrorMirrors T s.graph.name s.graph.nodes.zipIdx e e' ∧
          Site.Mirrors Q T s' t) x y := fun hxy =>
    hxy.mono (fun _ _ _ _ h => ⟨h.1.symm, h.2⟩) fun _ _ _ _ h => ⟨.inl h.1.symm, h.2⟩
  -- the two calls differ at most where they add copies
  by_cases hcopy : ∃ buffers, c = copyIn buffers
  · obtain ⟨buffers, rfl⟩ := hcopy
    rcases hc with rfl | ⟨hT, rfl⟩
    · exact hsame (agree_bind_zero (Graph.agree_addBinding buffers h fun _ => .inl rfl))
    · exact hsame (agree_bind_zero (Graph.agree_addBinding buffers h fun _ => .inr ⟨hT, rfl⟩))
  · have hc' : c' = c := by
      rcases hc with rfl | ⟨-, rfl⟩
      · rfl
      · cases c with
        | copyIn buffers => exact absurd ⟨buffers, rfl⟩ hcopy
        | _ => rfl
    subst hc'
    cases c' with
    | streamIn buffers =>
      exact hsame (agree_bind_zero (Graph.agree_addBinding buffers h fun _ => .inl rfl))
    | copyIn buffers => exact absurd ⟨buffers, rfl⟩ hcopy
    | task name k args => exact hsame (agree_bind_zero (Graph.agree_task name k args h))
    | streamOut buffers => exact hsame (agree_bind_zero (Graph.agree_streamOut buffers h))
    | barrier => exact hsame (agree_bind_zero (Graph.agree_barrier h))
    | rebind old new => exact hsame (agree_bind_zero (Graph.agree_rebind old new h))
    | warmup =>
      exact (Graph.matches_warmup h hs hclean).bind fun _ _ _ _ _ _ h => .ok ⟨rfl, h⟩
    | execute => exact Graph.matches_execute hTQ h hs hclean
    | synchronize buffers => exact hsame (agree_bind_zero (Graph.agree_synchronize buffers h))
    | clearProfile => exact hsame (agree_bind_zero (Graph.agree_clearProfile h))
    | dispose => exact .ok ⟨rfl, Graph.mirrors_dispose h⟩

end Command

end Offload
