import Offload.Proofs.Filling
import Offload.Proofs.Safety
import Offload.Proofs.Supply

/-!
# What a run delivers

On a device of the host that does not fail and has memory for all buffers of a graph, a run that
copies to the device, launches one kernel and copies back gets done. What the kernel produces from
the host buffers that were copied is what device memory holds afterwards, and the host buffer as
well.

* `Site.Fit` — such a graph; it stays so whatever it does with its nodes.
* `Site.Moves` — which slots and which host buffers may hold something else after a step.
* `Site.Fit.transferIn`, `Site.Fit.launch`, `Site.Fit.transferOut` — what the nodes do.
* `Site.Fit.execute` — what a run does.
* `Site.Fit.warmup`, `Site.Fit.synchronize` — what a warm-up and a copy outside a run do.
-/

namespace Offload

open Step

namespace Workspace

variable {w w' : Workspace} {s : SlotId}

/-- Device memory of a slot holds what the buffer in the slot holds. -/
def Agrees (w : Workspace) (s : SlotId) : Prop := w.deviceBytes s = some (w.host s).bytes

/-- A slot that agrees with its buffer may say so. -/
theorem Agrees.clean (h : w.Agrees s) : w.Clean s := fun _ => h

/-- A clean slot that is not stale agrees with its buffer. -/
theorem Clean.agrees (h : w.Clean s) (hs : ¬ w.isStale s = true) : w.Agrees s := by
  refine h ?_
  simp only [isStale, Bool.or_eq_true, not_or, bne_iff_ne, Decidable.not_not] at hs
  exact hs.2

variable {args : List TaskArg} {given : List LaunchArg} {i : Nat} {t : ScalarType} {c : Bytes}

/-- A kernel that is given a slot is given the elements that device memory of the slot holds. -/
theorem Sound.holds (hw : w.Sound) (hgiven : args.mapM (Graph.launchArg w.table) = .ok given)
    (hi : args[i]? = some (.slot s)) (ht : t ≠ .bool) (htype : (w.host s).type = .scalar t)
    (hc : w.deviceBytes s = some c) :
    ∃ id b, w.table.block? s = some id ∧ Kernel.Holds (t := t) w.pool.arena given i id b
      ((ElementType.scalar t).valuesOf c (w.host s).len) := by
  obtain ⟨arg, harg, hlaunch⟩ := (mapM_inv hgiven).2 i _ hi
  obtain ⟨a, ha, rfl⟩ := launchArg_slot hlaunch
  obtain ⟨-, hlen, id, b, hid, hb, hsize⟩ := hw.room s a ha
  have hblock : w.table.block? s = some id := block?_eq_some.mpr ⟨a, ha, hid⟩
  obtain rfl : b.content = c := Option.some.inj ((deviceBytes_of_lends hblock hb).symm.trans hc)
  refine ⟨id, b, hblock, ⟨a, harg, hid, ?_⟩, hb.1, ?_⟩
  · rw [ElementType.length_valuesOf, hlen]
  · refine (ElementType.bytesOf_valuesOf ht ?_).symm
    rw [Block.size_content, hsize, HostBuffer.byteLen, htype]
    rfl

end Workspace

/-! ### Graphs that can be run -/

/-- A graph in good order, on a device that has memory for all its buffers. -/
structure Site.Fit (κ : KernelId → Kernel) (s : Site) : Prop extends s.Healthy κ where
  /-- there is enough memory -/
  ample : s.workspace.Ample

/-- `s'` is `s` after steps of a run, which did something to device memory of the slots for which
`T` holds only, and to the host buffers for which `N` holds only. -/
structure Site.Moves (κ : KernelId → Kernel) (T : SlotId → Prop) (N : HostId → Prop) (s s' : Site) :
    Prop where
  /-- the graph can be run -/
  fit : s'.Fit κ
  /-- it has its name -/
  name : s'.graph.name = s.graph.name
  /-- it has its nodes -/
  nodes : s'.graph.nodes = s.graph.nodes
  /-- it was not disposed of -/
  live : s.graph.phase ≠ .disposed → s'.graph.phase ≠ .disposed
  /-- the buffers are in their slots -/
  host : ∀ slot, (s'.graph.table.get slot).host = (s.graph.table.get slot).host
  /-- the slots have advanced -/
  advances : Workspace.Advances T s.workspace s'.workspace
  /-- other host buffers hold what they held -/
  buffers : ∀ id, ¬ N id → (s'.machine.hosts.get id).bytes = (s.machine.hosts.get id).bytes
  /-- other slots hold what they held -/
  bytes : ∀ slot b, ¬ T slot → s.workspace.deviceBytes slot = some b →
    s'.workspace.deviceBytes slot = some b

namespace Site.Moves

variable {κ : KernelId → Kernel} {T T' : SlotId → Prop} {N N' : HostId → Prop} {s s' s'' : Site}
  {slot : SlotId}

theorem refl (h : s.Fit κ) : Moves κ T N s s :=
  ⟨h, rfl, rfl, fun h => h, fun _ => rfl, .refl _ _, fun _ _ => rfl, fun _ _ _ h => h⟩

theorem trans (h : Moves κ T N s s') (h' : Moves κ T N s' s'') : Moves κ T N s s'' where
  fit := h'.fit
  name := h'.name.trans h.name
  nodes := h'.nodes.trans h.nodes
  live hs := h'.live (h.live hs)
  host slot := (h'.host slot).trans (h.host slot)
  advances := h.advances.trans h'.advances
  buffers id hid := (h'.buffers id hid).trans (h.buffers id hid)
  bytes slot b hslot hb := h'.bytes slot b hslot (h.bytes slot b hslot hb)

theorem mono (h : Moves κ T N s s') (hT : ∀ slot, T slot → T' slot) (hN : ∀ id, N id → N' id) :
    Moves κ T' N' s s' :=
  { h with
    advances := h.advances.mono hT
    buffers := fun id hid => h.buffers id (mt (hN id) hid)
    bytes := fun slot b hslot => h.bytes slot b (mt (hT slot) hslot) }

theorem has (h : Moves κ T N s s') (hs : s.workspace.table.Has slot) :
    s'.workspace.table.Has slot := h.advances.has slot hs

/-- The buffer in a slot holds what it held. -/
theorem hostBytes (h : Moves κ T N s s') (hN : ¬ N (s.graph.table.get slot).host) :
    (s'.workspace.host slot).bytes = (s.workspace.host slot).bytes := by
  show (s'.machine.hosts.get (s'.graph.table.get slot).host).bytes = _
  rw [h.host]
  exact h.buffers _ hN

/-- A slot that agreed with its buffer still does. -/
theorem agrees (h : Moves κ T N s s') (hT : ¬ T slot) (hN : ¬ N (s.graph.table.get slot).host)
    (ha : s.workspace.Agrees slot) : s'.workspace.Agrees slot := by
  rw [Workspace.Agrees, h.hostBytes hN]
  exact h.bytes slot _ hT ha

end Site.Moves

namespace Site.Fit

open Offload.Graph

variable {κ : KernelId → Kernel} {T : SlotId → Prop} {N : HostId → Prop} {s : Site} {w : Workspace}
  {slot : SlotId} {node : String} {stage : Stage} {E : GraphError → Prop}

/-- A step on the slots. -/
theorem moves (h : s.Fit κ) (hp : Workspace.Progress κ T s.workspace w)
    (hb : s.workspace.Balances w)
    (hhost : ∀ slot, (w.table.get slot).host = (s.graph.table.get slot).host)
    (hbuffers : ∀ id, ¬ N id → (w.hosts.get id).bytes = (s.machine.hosts.get id).bytes)
    (hbytes : ∀ slot b, ¬ T slot → s.workspace.deviceBytes slot = some b →
      w.deviceBytes slot = some b) : Moves κ T N s (s.setWorkspace w) := by
  obtain ⟨-, -, hadvances, hhas⟩ := hp h.sound.workspace h.sound.programs
  have hprogress : Site.Progress κ T s (s.setWorkspace w) := ⟨hp, rfl, rfl⟩
  exact ⟨⟨h.toHealthy.progress hprogress,
    h.ample.advances h.sound.workspace hb hadvances hhas hhost⟩, rfl, rfl, fun h => h, hhost,
    hadvances, hbuffers, hbytes⟩

/-- A step that serves slots. -/
theorem serves (h : s.Fit κ) (hserves : Workspace.Serves T s.workspace w)
    (hprograms : w.machine.context.programs = s.machine.context.programs)
    (hb : s.workspace.Balances w)
    (hbuffers : ∀ id, ¬ N id → (w.hosts.get id).bytes = (s.machine.hosts.get id).bytes) :
    Moves κ T N s (s.setWorkspace w) :=
  h.moves (.of_serves hprograms fun _ => hserves) hb hserves.host hbuffers hserves.bytes

/-- A minor change of the graph. -/
theorem withGraph (h : s.Fit κ) {f : Graph → Graph} (hf : Minor f) :
    Moves κ T N s (s.withGraph f) := by
  have hprogress : Site.Progress κ T s (s.withGraph f) := allows_progress.graph f hf s
  have hworkspace : (s.withGraph f).workspace = s.workspace :=
    workspace_withGraph (hf.table s.graph)
  refine ⟨⟨h.toHealthy.progress hprogress, hworkspace ▸ h.ample⟩, hprogress.name, hprogress.nodes,
    hf.live s.graph, fun slot => ?_, hprogress.advances h.sound, fun _ _ => rfl,
    fun slot b _ hb => hworkspace ▸ hb⟩
  exact congrArg (fun t : SlotTable => (t.get slot).host) (hf.table s.graph)

/-! ### Steps -/

/-- A slot gets room. -/
theorem room (h : s.Fit κ) (hhas : s.workspace.table.Has slot) :
    Ends (fun _ s' => Moves κ T N s s' ∧ ∃ b, s'.workspace.deviceBytes slot = some b) E
      (inNode node stage (Workspace.ensureAllocated slot) s) := by
  obtain ⟨u, w, hroom⟩ := h.ample.ensureAllocated_ok h.sound.workspace hhas
  have hbooks := (Workspace.Conserves.ensureAllocated hhas s.workspace).balances fun _ h => h
  have hprograms := (Workspace.samePrograms_ensureAllocated slot s.workspace).programs
  obtain ⟨hserves, hhosts, ⟨-, -, hblock⟩ | ⟨⟨_, hr⟩, -⟩⟩ :=
    Workspace.ensureAllocated_inv h.sound.workspace hroom
  · rw [inNode_apply, hroom]
    rw [hroom] at hbooks hprograms
    refine .ok ⟨h.serves (hserves.mono nofun) hprograms hbooks fun id _ =>
      congrArg (fun m : HostMemory => (m.get id).bytes) hhosts, ?_⟩
    obtain ⟨id, hid⟩ := hblock hhas
    obtain ⟨b, hb, -⟩ := hserves.sound.lends hid
    exact ⟨_, Workspace.deviceBytes_of_lends hid hb⟩
  · cases hr

/-- A slot that has room is filled. -/
theorem upload (h : s.Fit κ) (hT : T slot) (hroom : ∃ b, s.workspace.deviceBytes slot = some b) :
    Ends (fun _ s' => Moves κ T N s s' ∧ s'.workspace.Agrees slot) E
      (inNode node stage (Workspace.upload slot) s) := by
  have hw := h.sound.workspace
  obtain ⟨w, hup⟩ := hw.upload_ok (h.quiet .upload) hroom
  have hhas : s.workspace.table.Has slot := hroom.elim fun _ => Workspace.has_of_deviceBytes
  have hbooks := (Workspace.Conserves.upload hhas s.workspace).balances fun _ h => h
  have hprograms := (Workspace.samePrograms_upload slot s.workspace).programs
  obtain ⟨hserves, hhosts, -⟩ := Workspace.upload_inv hw hup
  rw [inNode_apply, hup]
  rw [hup] at hbooks hprograms
  exact .ok ⟨h.serves (hserves.mono fun _ he => he ▸ hT) hprograms hbooks fun id _ =>
    congrArg (fun m : HostMemory => (m.get id).bytes) hhosts,
    Workspace.deviceBytes_of_upload hw hup⟩

/-- A buffer gets what device memory of its slot holds. -/
theorem download (h : s.Fit κ) (hN : N (s.graph.table.get slot).host) {b : Bytes}
    (hb : s.workspace.deviceBytes slot = some b) :
    ∃ w, Workspace.download slot s.workspace = (.ok (), w) ∧ Moves κ T N s (s.setWorkspace w) ∧
      (w.host slot).bytes = b := by
  have hw := h.sound.workspace
  obtain ⟨w, hdown⟩ := hw.download_ok (h.quiet .download) ⟨b, hb⟩
  have hbooks := (Workspace.Conserves.download (T := s.workspace.table.Has) slot
    s.workspace).balances fun _ h => h
  have hprograms := (Workspace.samePrograms_download slot s.workspace).programs
  rw [hdown] at hbooks hprograms
  obtain ⟨hserves, ⟨-, c, hc, -, hhosts⟩ | ⟨⟨_, hr⟩, -⟩ | ⟨hr, -⟩⟩ :=
    Workspace.download_inv hw hdown
  · refine ⟨w, hdown, h.serves (hserves.mono nofun) hprograms hbooks fun id hid => ?_, ?_⟩
    · have hne : id ≠ (s.graph.table.get slot).host := fun he => hid (he ▸ hN)
      rw [hhosts]
      exact congrArg HostBuffer.bytes (HostMemory.get_set_ne _ _ hne)
    · have hagrees := Workspace.deviceBytes_of_download hw hdown
      exact Option.some.inj (hagrees.symm.trans (hserves.bytes slot b not_false hb))
  · cases hr
  · cases hr

/-- Waiting for the device. -/
theorem wait (h : s.Fit κ) :
    Ends (fun _ s' => Moves κ T N s s') E
      (inNode node stage (Workspace.onDevice Device.synchronize) s) := by
  have hcall : Device.call .synchronize s.workspace.device =
      (.ok (), s.workspace.device.counted .synchronize) := Device.call_of_quiet (h.quiet _)
  have hchanges := Device.synchronize_changes (fun _ => False) s.workspace.device
  have hserves := h.sound.workspace.serves_withChanges (T := fun _ => False) hchanges
    (fun _ => False.elim) fun _ => False.elim
  have hbooks := (Workspace.Conserves.withDevice (T := s.workspace.table.Has)
    hchanges).balances fun _ h => h
  rw [inNode_apply, Workspace.onDevice_apply]
  rw [Device.synchronize, hcall] at hserves hbooks ⊢
  exact .ok (h.serves (hserves.mono fun _ => False.elim) rfl hbooks fun _ _ => rfl)

/-- A kernel whose space goes with its parameters is compiled. -/
theorem compile {k : Kernel} (h : s.Fit κ) (hk : κ k.id = k)
    (hvalid : k.space.validate k.params = .ok ()) :
    Ends (fun p s' => p.kernel = k ∧ Moves κ T N s s') E
      (inNode node stage (Workspace.onContext (Context.compile k)) s) := by
  rcases hc : Context.compile k s.machine.context with ⟨r, c⟩
  have happly : Workspace.onContext (Context.compile k) s.workspace =
      (r, ⟨⟨s.machine.hosts, c⟩, s.graph.table⟩) := by
    rw [Workspace.onContext, on_apply]
    exact congrArg (fun x : Except DeviceError Program × Context =>
      (x.1, (⟨⟨s.machine.hosts, x.2⟩, s.graph.table⟩ : Workspace))) hc
  have hprogress := Workspace.follows_compile (W := T) hk s.workspace
  have hbooks := (Workspace.Conserves.compile (T := s.workspace.table.Has) k
    s.workspace).balances fun _ h => h
  obtain ⟨-, hdevice, ⟨p, rfl, hkernel, -⟩ | ⟨e, -, hinvalid⟩⟩ :=
    Context.compile_inv h.sound.programs hk hc
  · rw [inNode_apply, happly]
    rw [happly] at hprogress hbooks
    refine .ok ⟨hkernel, h.moves hprogress hbooks (fun _ => rfl) (fun _ _ => rfl) ?_⟩
    intro slot b _ hb
    rw [Workspace.deviceBytes] at hb ⊢
    rw [show Workspace.pool ⟨⟨s.machine.hosts, c⟩, s.graph.table⟩ = s.workspace.pool from
      congrArg Device.pool hdevice]
    exact hb
  · rw [h.target, k.compilable_cpu, hvalid] at hinvalid
    cases hinvalid

/-- A launch leaves what the kernel produces. -/
theorem deviceLaunch {k : Kernel} {args : List TaskArg} {given : List LaunchArg} {i : Nat}
    {out : Bytes} (h : s.Fit κ) (hT : ∀ slot, (Action.task k args).Writes slot → T slot)
    (hgiven : args.mapM (launchArg s.graph.table) = .ok given)
    (hcheck : k.checkArgs given = .ok ()) (hi : args[i]? = some (.slot slot))
    (hproduces : k.Produces s.workspace.pool.arena given i out) :
    Ends (fun _ s' => Moves κ T N s s' ∧ s'.workspace.deviceBytes slot = some out) E
      (inNode node stage (Workspace.onDevice (Device.launch k given)) s) := by
  obtain ⟨g, hgrid, hexecute⟩ := hproduces
  obtain ⟨hok, hout⟩ := hexecute s.workspace.device.notes
  have hprogress := Workspace.progress_launch (κ := κ) (w := s.workspace) hT hgiven
  have hchanges := (Device.launch_changes s.workspace.device k given).mono fun _ h => h.2
  have hbooks := (Workspace.Conserves.withDevice (T := s.workspace.table.Has)
    hchanges).balances fun _ h => h
  have hlaunch : Device.launch k given s.workspace.device =
      (.ok g, (Device.execute k given g (s.workspace.device.counted .launch)).2) := by
    rw [Device.launch_apply, show Device.call .launch s.workspace.device = _ from
      Device.call_of_quiet (h.quiet .launch), hcheck]
    dsimp only
    rw [hgrid]
    exact congrArg (fun r : Except DeviceError Unit => (r.map fun _ => g, _)) hok
  rw [inNode_apply]
  rw [Workspace.onDevice_apply] at hprogress ⊢
  rw [hlaunch] at hprogress hchanges hbooks ⊢
  refine .ok ⟨h.moves hprogress hbooks (fun _ => rfl) (fun _ _ => rfl) fun x b hx hb => ?_, ?_⟩
  · exact h.sound.workspace.deviceBytes_of_launch hgiven hchanges (mt (hT x) hx) hb
  · have hcontent := Workspace.contentAt_given (w := s.workspace.withDevice
      (Device.execute k given g (s.workspace.device.counted .launch)).2) hgiven i
    rw [slotAt, hi] at hcontent
    exact hcontent.symm.trans hout

/-! ### Nodes -/

/-- Slots get room one after the other. -/
theorem makeRoom (h : s.Fit κ) {slots : List SlotId}
    (hhas : ∀ slot ∈ slots, s.workspace.table.Has slot) :
    Ends (fun _ s' => Moves κ (fun _ => False) N s s' ∧
        ∀ slot ∈ slots, ∃ b, s'.workspace.deviceBytes slot = some b) E
      (Step.each slots (fun slot => do
        let _ ← inNode node stage (Workspace.ensureAllocated slot)) s) := by
  induction slots generalizing s with
  | nil => exact .ok ⟨.refl h, nofun⟩
  | cons slot r ih =>
    have hfirst : Ends (fun (_ : Unit) s' => Moves κ (fun _ => False) N s s' ∧
        ∃ b, s'.workspace.deviceBytes slot = some b) E
        ((inNode node stage (Workspace.ensureAllocated slot) >>= fun _ => pure ()) s) :=
      (h.room (hhas slot List.mem_cons_self)).bind fun _ _ h₁ => .ok h₁
    refine hfirst.bind fun _ s₁ h₁ => ?_
    obtain ⟨hmoves, b, hb⟩ := h₁
    refine (ih hmoves.fit fun x hx => hmoves.has (hhas x (List.mem_cons_of_mem _ hx))).mono
      (fun _ s₂ h₂ => ?_) fun _ => id
    obtain ⟨hmoves', hroom⟩ := h₂
    refine ⟨hmoves.trans hmoves', fun x hx => ?_⟩
    rcases List.mem_cons.mp hx with rfl | hx
    · exact ⟨b, hmoves'.bytes x b not_false hb⟩
    · exact hroom x hx

/-- After copies to clean slots, all of them agree with their buffers. -/
theorem transferIn (h : s.Fit κ) {always : Bool} {slots : List SlotId}
    (hhas : ∀ slot ∈ slots, s.workspace.table.Has slot)
    (hclean : ∀ slot ∈ slots, s.workspace.Clean slot) :
    Ends (fun _ s' => Moves κ (· ∈ slots) (fun _ => False) s s' ∧
        ∀ slot ∈ slots, s'.workspace.Agrees slot) E (Graph.transferIn node always slots s) := by
  induction slots generalizing s with
  | nil => exact .ok ⟨.refl h, nofun⟩
  | cons slot r ih =>
    -- once the first slot agrees with its buffer, it goes on doing so
    have hrest : ∀ {s₁ : Site}, Moves κ (· ∈ slot :: r) (fun _ => False) s s₁ →
        (∀ x ∈ r, s₁.workspace.Clean x) → s₁.workspace.Agrees slot →
        Ends (fun _ s' => Moves κ (· ∈ slot :: r) (fun _ => False) s s' ∧
          ∀ x ∈ slot :: r, s'.workspace.Agrees x) E (Graph.transferIn node always r s₁) := by
      intro s₁ hmoves hclean₁ hagrees
      refine (ih hmoves.fit (fun x hx => hmoves.has (hhas x (List.mem_cons_of_mem _ hx)))
        hclean₁).mono (fun _ s₂ h₂ => ?_) fun _ => id
      obtain ⟨hmoves', hall⟩ := h₂
      refine ⟨hmoves.trans (hmoves'.mono (fun _ => List.mem_cons_of_mem _) fun _ => id),
        fun x hx => ?_⟩
      by_cases hxr : x ∈ r
      · exact hall x hxr
      · obtain rfl : x = slot := (List.mem_cons.mp hx).resolve_right hxr
        exact hmoves'.agrees hxr not_false hagrees
    refine (h.room (T := fun _ => False) (N := fun _ => False)
      (hhas slot List.mem_cons_self)).bind fun _ s₁ h₁ => ?_
    obtain ⟨hmoves, hroom⟩ := h₁
    have hclean₁ : ∀ x ∈ slot :: r, s₁.workspace.Clean x := fun x hx =>
      hmoves.advances.clean x not_false (hclean x hx)
    rw [bind_apply, get_apply]
    dsimp only
    split
    · refine (hmoves.fit.upload (T := (· = slot)) (N := fun _ => False) rfl hroom).bind
        fun _ s₂ h₂ => ?_
      obtain ⟨hmoves', hagrees⟩ := h₂
      have hclean₂ : ∀ x ∈ r, s₂.workspace.Clean x := by
        intro x hx
        by_cases he : x = slot
        · exact he ▸ hagrees.clean
        · exact hmoves'.advances.clean x he (hclean₁ x (List.mem_cons_of_mem _ hx))
      rw [bytesIn_bind]
      refine (hrest ((hmoves.mono nofun fun _ => id).trans (hmoves'.mono ?_ fun _ => id)) hclean₂
        hagrees).bind fun _ _ h₃ => .ok h₃
      rintro x rfl
      exact List.mem_cons_self
    · rename_i hfresh
      simp only [Bool.or_eq_true, not_or] at hfresh
      exact hrest (hmoves.mono nofun fun _ => id)
        (fun x hx => hclean₁ x (List.mem_cons_of_mem _ hx))
        ((hclean₁ slot List.mem_cons_self).agrees hfresh.2)

/-- A copy of one slot to the host. -/
theorem transferOut (h : s.Fit κ) (hN : N (s.graph.table.get slot).host) {b : Bytes}
    (hb : s.workspace.deviceBytes slot = some b) :
    Ends (fun _ s' => Moves κ T N s s' ∧ (s'.workspace.host slot).bytes = b) E
      (Graph.transferOut node [slot] s) := by
  obtain ⟨w, hdown, hmoves, hbytes⟩ := h.download (T := T) hN hb
  have hnode : inNode node .transfer (Workspace.download slot) s = (.ok (), s.setWorkspace w) := by
    rw [inNode_apply, hdown]
    rfl
  rw [Graph.transferOut, bind_of_ok hnode]
  exact .ok ⟨hmoves, hbytes⟩

/-- A task gets done if its kernel produces something from what is then in its slots. -/
theorem launch {n : Node} {k : Kernel} {args : List TaskArg} {i : Nat} {out : Bytes}
    (h : s.Fit κ) (hn : n ∈ s.graph.nodes) (ha : n.action = .task k args)
    (hvalid : k.space.validate k.params = .ok ()) (hi : args[i]? = some (.slot slot))
    (hT : ∀ x, (Action.task k args).Writes x → T x)
    (hproduces : ∀ s₁ given, Moves κ (fun _ => False) (fun _ => False) s s₁ →
      args.mapM (launchArg s₁.graph.table) = .ok given →
      k.Produces s₁.workspace.pool.arena given i out) :
    Ends (fun _ s' => Moves κ T (fun _ => False) s s' ∧
      s'.workspace.deviceBytes slot = some out) E (Graph.launch node k args s) := by
  have hknown := h.sound.known n hn
  have hhas : ∀ x ∈ (Action.task k args).slots, s.workspace.table.Has x := fun x hx =>
    (h.sound.built.slots x).mpr ⟨n, hn, ha ▸ hx⟩
  rw [ha] at hknown
  refine (h.makeRoom (N := fun _ => False) hhas).bind fun _ s₁ h₁ => ?_
  obtain ⟨hmoves, hroom⟩ := h₁
  refine (hmoves.fit.compile (T := fun _ => False) (N := fun _ => False) hknown hvalid).bind
    fun p s₂ h₂ => ?_
  obtain ⟨hkernel, hmoves'⟩ := h₂
  have hmoves₂ := hmoves.trans hmoves'
  -- the slots have room, so that the kernel can be given what it takes
  obtain ⟨given, hgiven⟩ := exists_given (k := k) (w := s₂.workspace) fun x hx => by
    obtain ⟨b, hb⟩ := hroom x hx
    exact ⟨b, hmoves'.bytes x b not_false hb⟩
  have htyped := hmoves₂.fit.typed n (hmoves₂.nodes ▸ hn)
  rw [ha] at htyped
  have hcheck : k.checkArgs given = .ok () :=
    Kernel.Takes.checkArgs htyped hmoves₂.fit.sound.workspace hgiven
  rw [bind_apply, get_apply]
  dsimp only
  rw [show args.mapM (launchArg s₂.graph.table) = .ok given from hgiven, hkernel]
  refine (hmoves₂.fit.deviceLaunch hT hgiven hcheck hi (hproduces s₂ given hmoves₂ hgiven)).bind
    fun _ s₃ h₃ => .ok ⟨(hmoves₂.mono nofun fun _ => id).trans h₃.1, h₃.2⟩

/-- A node is recorded when it is done. -/
theorem recorded {n : Node} {run : Nat} {P : Workspace → Prop}
    (h : ∀ node, Ends (fun _ s' => Moves κ T N s s' ∧ P s'.workspace) E (perform node n.action s)) :
    Ends (fun _ s' => Moves κ T N s s' ∧ P s'.workspace) E (Graph.runNode run n s) := by
  rw [runNode_apply]
  refine (h _).bind fun bytes s₁ h₁ => ?_
  have hrecord : Minor (completed (s.graph.qualified n.name) n run bytes) :=
    ⟨fun _ => rfl, fun _ => rfl, fun _ => rfl, fun _ h => h⟩
  exact .ok ⟨h₁.1.trans (h₁.1.fit.withGraph hrecord),
    (workspace_withGraph (hrecord.table s₁.graph)).symm ▸ h₁.2⟩

end Site.Fit

/-! ### Runs -/

namespace Site

open Offload.Graph

variable {κ : KernelId → Kernel}

/-- The nodes of a graph copy to some slots and launch a kernel that writes to `slot`, which is then
copied back or not. -/
structure Delivers (s : Site) (slots : List SlotId) (k : Kernel) (args : List TaskArg) (i : Nat)
    (slot : SlotId) (back : Bool) : Prop where
  /-- the nodes -/
  nodes : ∃ copy task rest, s.graph.nodes = copy :: task :: rest ∧
    (copy.action = .streamIn slots ∨ copy.action = .copyIn slots) ∧ task.action = .task k args ∧
    rest.map Node.action = if back then [.streamOut [slot]] else []
  /-- the slots that are copied to agree with their buffers, unless they are stale -/
  clean : ∀ x ∈ slots, s.workspace.Clean x
  /-- the kernel can be compiled -/
  valid : k.space.validate k.params = .ok ()
  /-- it is given the slot -/
  arg : args[i]? = some (.slot slot)
  /-- it writes no other -/
  writes : ∀ x, (Action.task k args).Writes x → x = slot

/-- No other kernel is launched. -/
theorem Delivers.valid_of_mem {s : Site} {slots : List SlotId} {k : Kernel} {args : List TaskArg}
    {i : Nat} {slot : SlotId} {back : Bool} (h : Delivers s slots k args i slot back) :
    ∀ n ∈ s.graph.nodes, ∀ k' args', n.action = .task k' args' →
      k'.space.validate k'.params = .ok () := by
  obtain ⟨copy, task, rest, hnodes, hcopy, htask, hrest⟩ := h.nodes
  intro n hn k' args' ha
  rw [hnodes] at hn
  rcases List.mem_cons.mp hn with rfl | hn
  · rcases hcopy with hc | hc <;> cases hc.symm.trans ha
  · rcases List.mem_cons.mp hn with rfl | hn
    · cases htask.symm.trans ha
      exact h.valid
    · have hmem : n.action ∈ rest.map Node.action := List.mem_map_of_mem hn
      rw [hrest, ha] at hmem
      split at hmem <;> simp at hmem

/-- From copies to clean slots the kernel produces `out` in its argument at index `i`. -/
def Makes (κ : KernelId → Kernel) (s : Site) (slots : List SlotId) (k : Kernel)
    (args : List TaskArg) (i : Nat) (out : Bytes) : Prop :=
  ∀ s₁ given, Moves κ (· ∈ slots) (fun _ => False) s s₁ → (∀ x ∈ slots, s₁.workspace.Agrees x) →
    args.mapM (launchArg s₁.graph.table) = .ok given →
    k.Produces s₁.workspace.pool.arena given i out

/-- What was delivered: the result is in device memory, and in the host buffer if it was copied
back. The slots that only the host has written agree with their buffers. -/
structure Delivered (κ : KernelId → Kernel) (s : Site) (slots : List SlotId) (slot : SlotId)
    (back : Bool) (out : Bytes) (s' : Site) : Prop where
  /-- nothing else has changed -/
  moves : Moves κ (fun x => x ∈ slots ∨ x = slot) (· = (s.graph.table.get slot).host) s s'
  /-- the result is in device memory -/
  device : s'.workspace.deviceBytes slot = some out
  /-- it was copied back -/
  host : back = true → (s'.workspace.host slot).bytes = out
  /-- other slots agree with their buffers -/
  agrees : ∀ x ∈ slots, x ≠ slot → s'.workspace.Agrees x

/-- What was delivered stays while nothing is done to slots and buffers. -/
theorem Delivered.trans {slots : List SlotId} {slot : SlotId} {back : Bool} {out : Bytes}
    {s s' s'' : Site} (h : Delivered κ s slots slot back out s')
    (hmoves : Moves κ (fun _ => False) (fun _ => False) s' s'') :
    Delivered κ s slots slot back out s'' where
  moves := h.moves.trans (hmoves.mono nofun nofun)
  device := hmoves.bytes slot out not_false h.device
  host hback := (hmoves.hostBytes not_false).trans (h.host hback)
  agrees x hx hne := hmoves.agrees not_false not_false (h.agrees x hx hne)

end Site

namespace Site.Fit

open Offload.Graph

variable {κ : KernelId → Kernel} {s : Site} {slot : SlotId} {E : GraphError → Prop}
  {slots : List SlotId} {k : Kernel} {args : List TaskArg} {i : Nat} {back : Bool} {out : Bytes}

/-- The nodes of such a graph, one after the other. -/
theorem deliver (h : s.Fit κ) (hd : Delivers s slots k args i slot back)
    (hmakes : Makes κ s slots k args i out) (run : Nat) :
    Ends (fun _ s' => Delivered κ s slots slot back out s') E
      (Step.each s.graph.nodes (Graph.runNode run) s) := by
  obtain ⟨copy, task, rest, hnodes, hcopy, htask, hrest⟩ := hd.nodes
  have hslots : ∀ n ∈ s.graph.nodes, ∀ x ∈ n.action.slots, s.workspace.table.Has x :=
    fun n hn x hx => (h.sound.built.slots x).mpr ⟨n, hn, hx⟩
  have hn : copy ∈ s.graph.nodes ∧ task ∈ s.graph.nodes := by simp [hnodes]
  have hhas : ∀ x ∈ slots, s.workspace.table.Has x := fun x hx =>
    hslots copy hn.1 x (by rcases hcopy with hc | hc <;> rw [hc] <;> exact hx)
  have hslot : s.workspace.table.Has slot :=
    hslots task hn.2 slot (htask ▸ Action.mem_slots_task.mpr ⟨i, hd.arg⟩)
  rw [hnodes]
  refine (recorded (κ := κ) (T := (· ∈ slots)) (N := fun _ => False)
    (P := fun w => ∀ x ∈ slots, w.Agrees x) fun node => ?_).bind fun _ s₁ h₁ => ?_
  · rcases hcopy with hc | hc <;> rw [hc] <;> exact h.transferIn hhas hd.clean
  obtain ⟨hmoves₁, hagrees⟩ := h₁
  refine (recorded (κ := κ) (T := (· = slot)) (N := fun _ => False)
    (P := fun w => w.deviceBytes slot = some out) fun node => ?_).bind fun _ s₂ h₂ => ?_
  · rw [htask]
    refine (hmoves₁.fit.launch (hmoves₁.nodes ▸ hn.2) htask hd.valid hd.arg hd.writes
      fun s' given hmoves hgiven => ?_).bind fun _ _ h => .ok h
    exact hmakes s' given (hmoves₁.trans (hmoves.mono nofun fun _ => id))
      (fun x hx => hmoves.agrees not_false not_false (hagrees x hx)) hgiven
  obtain ⟨hmoves₂, hout⟩ := h₂
  have hmoves : Moves κ (fun x => x ∈ slots ∨ x = slot) (fun _ => False) s s₂ :=
    (hmoves₁.mono (fun _ => .inl) fun _ => id).trans (hmoves₂.mono (fun _ => .inr) fun _ => id)
  have hothers : ∀ x ∈ slots, x ≠ slot → s₂.workspace.Agrees x := fun x hx hne =>
    hmoves₂.agrees hne not_false (hagrees x hx)
  cases back with
  | false =>
    obtain rfl : rest = [] := List.map_eq_nil_iff.mp hrest
    exact .ok ⟨hmoves.mono (fun _ => id) nofun, hout, nofun, hothers⟩
  | true =>
    obtain ⟨last, rfl, hlast⟩ : ∃ last, rest = [last] ∧ last.action = .streamOut [slot] := by
      rcases rest with _ | ⟨last, _ | ⟨_, _⟩⟩ <;> simp at hrest
      exact ⟨last, rfl, hrest⟩
    refine (recorded (κ := κ) (T := fun _ => False) (N := (· = (s.graph.table.get slot).host))
      (P := fun w => (w.host slot).bytes = out) fun node => ?_).bind fun _ s₃ h₃ => ?_
    · rw [hlast]
      exact hmoves₂.fit.transferOut (hmoves.host slot) hout
    obtain ⟨hmoves₃, hhost⟩ := h₃
    refine .ok ⟨(hmoves.mono (fun _ => id) nofun).trans (hmoves₃.mono nofun fun _ => id),
      hmoves₃.bytes slot out not_false hout, fun _ => hhost, fun x hx hne => ?_⟩
    -- the buffer that was copied back is in no other slot
    refine hmoves₃.agrees not_false (fun he => hne ?_) (hothers x hx hne)
    rw [hmoves.host] at he
    exact h.sound.workspace.table.host_injective (hhas x hx) hslot he

/-- A run of such a graph gets done and delivers what the kernel produces. -/
theorem execute (h : s.Fit κ) (hlive : s.graph.phase ≠ .disposed)
    (hd : Delivers s slots k args i slot back) (hmakes : Makes κ s slots k args i out) :
    ∃ s', Graph.execute s = (.ok (s.graph.runs + 1), s') ∧
      Delivered κ s slots slot back out s' := by
  have hbegun : Moves κ (fun _ => False) (fun _ => False) s s.begun :=
    h.withGraph (minor_phase nofun)
  have hdelivers : Delivers s.begun slots k args i slot back :=
    ⟨hd.nodes, hd.clean, hd.valid, hd.arg, hd.writes⟩
  have hmakes' : Makes κ s.begun slots k args i out := fun s₁ given hmoves =>
    hmakes s₁ given ((hbegun.mono nofun fun _ => id).trans hmoves)
  have hrun : Ends (fun _ s' => Delivered κ s slots slot back out s') (fun _ => False)
      (runAll (s.graph.runs + 1) s.begun) := by
    rw [runAll_apply]
    refine (hbegun.fit.deliver hdelivers hmakes' _).bind fun _ s₁ h₁ => ?_
    have hdelivered : Delivered κ s slots slot back out s₁ :=
      { h₁ with moves := (hbegun.mono nofun nofun).trans h₁.moves }
    exact h₁.moves.fit.wait.mono (fun _ _ hmoves => hdelivered.trans hmoves) fun _ => id
  obtain ⟨u, s₁, hr, hdelivered⟩ := hrun.exists_ok
  rw [begun] at hr
  rw [execute_apply, if_neg hlive, hr]
  exact ⟨_, rfl, hdelivered.trans (hdelivered.moves.fit.withGraph
    ⟨fun _ => rfl, fun _ => rfl, fun _ => rfl, fun _ _ => Phase.noConfusion⟩)⟩

/-! ### Other calls -/

section Calls

variable {N : HostId → Prop} {n : Node}

/-- Memory is allocated and the kernel is compiled for a node. -/
theorem warmNode (h : s.Fit κ) (hn : n ∈ s.graph.nodes)
    (hvalid : ∀ k args, n.action = .task k args → k.space.validate k.params = .ok ()) :
    Ends (fun _ s' => Moves κ (fun _ => False) N s s') E (Graph.warmNode n s) := by
  have hhas : ∀ x ∈ n.action.slots, s.workspace.table.Has x := fun x hx =>
    (h.sound.built.slots x).mpr ⟨n, hn, hx⟩
  have hknown := h.sound.known n hn
  rw [warmNode_apply]
  refine (h.makeRoom (N := N) hhas).bind fun _ s₁ h₁ => ?_
  cases ha : n.action with
  | task k args =>
    rw [ha] at hknown
    refine (h₁.1.fit.compile (T := fun _ => False) (N := N) hknown
      (hvalid k args ha)).bind fun _ s₂ h₂ => .ok (h₁.1.trans h₂.2)
  | _ => exact .ok h₁.1

/-- A warm-up gets done and changes nothing that can be seen. -/
theorem warmup (h : s.Fit κ) (hlive : s.graph.phase ≠ .disposed)
    (hvalid : ∀ n ∈ s.graph.nodes, ∀ k args, n.action = .task k args →
      k.space.validate k.params = .ok ()) :
    ∃ s', Graph.warmup s = (.ok (), s') ∧ Moves κ (fun _ => False) N s s' := by
  have heach : ∀ ns s₁, (∀ n ∈ ns, n ∈ s.graph.nodes) → Moves κ (fun _ => False) N s s₁ →
      Ends (fun _ s' => Moves κ (fun _ => False) N s s') (fun _ => False)
        (Step.each ns Graph.warmNode s₁) := by
    intro ns
    induction ns with
    | nil => exact fun s₁ _ h₁ => .ok h₁
    | cons n r ih =>
      intro s₁ hns h₁
      have hn := hns n List.mem_cons_self
      refine (h₁.fit.warmNode (N := N) (h₁.nodes ▸ hn) (hvalid n hn)).bind fun _ s₂ h₂ => ?_
      exact ih s₂ (fun m hm => hns m (List.mem_cons_of_mem _ hm)) (h₁.trans h₂)
  obtain ⟨_, s₁, hs₁, h₁⟩ := (heach s.graph.nodes s (fun _ => id) (.refl h)).exists_ok
  have hminor : Minor fun g : Graph =>
      if g.phase = .unbuilt ∨ g.phase = .built then { g with phase := .warmed } else g := by
    refine ⟨fun g => ?_, fun g => ?_, fun g => ?_, fun g hg => ?_⟩ <;> split
    case refine_4.isTrue => exact Phase.noConfusion
    case refine_4.isFalse => exact hg
    all_goals rfl
  have hend : Moves κ (fun _ => False) N s₁ _ := h₁.fit.withGraph hminor
  rw [warmup_apply, if_neg hlive, bind_of_ok hs₁]
  exact ⟨_, rfl, h₁.trans hend⟩

/-- A buffer gets what device memory of its slot holds. -/
theorem synchronize (h : s.Fit κ) (hlive : s.graph.phase ≠ .disposed) {b : Bytes}
    (hb : s.workspace.deviceBytes slot = some b) :
    ∃ s', Graph.synchronize [(s.graph.table.get slot).host] s = (.ok (), s') ∧
      Moves κ (fun _ => False) (· = (s.graph.table.get slot).host) s s' ∧
      (s'.workspace.host slot).bytes = b := by
  obtain ⟨w, hdown, hmoves, hbytes⟩ := h.download (T := fun _ => False)
    (N := (· = (s.graph.table.get slot).host)) rfl hb
  have hslot : s.graph.table.slotOf? (s.graph.table.get slot).host = some slot :=
    h.sound.workspace.table.slotOf?_host (Workspace.has_of_deviceBytes hb)
  have hbound : s.graph.boundSlots (s.graph.qualified "sync_objects")
      [(s.graph.table.get slot).host] = .ok [slot] := by
    simp only [Graph.boundSlots, List.mapM_cons, List.mapM_nil, hslot]
    rfl
  refine ⟨s.setWorkspace w, ?_, hmoves, hbytes⟩
  rw [Graph.synchronize, ensureLive_bind, if_neg hlive, bind_apply, get_apply]
  dsimp only
  rw [bind_apply, lift_apply, hbound]
  dsimp only
  rw [Step.each, bind_apply, mapError_apply, Site.onWorkspace, on_apply, hdown]
  rfl

end Calls

end Site.Fit

end Offload
