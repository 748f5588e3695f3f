import Offload.Proofs.Compilers

/-!
# Kernels are compiled once

All graphs on a device get their programs from one place. Whoever comes first has a kernel compiled,
in a warm-up or when a task is launched; if this fails, whoever comes next tries again, and once it
has succeeded, it is not done again. This does not depend on what the compiler says when.

* `Context.Tallies` — a context tallies with the calls of its compiler.
* `Context.Provides` — what comes of asking for the program of a kernel; `Compiler.provides_compile`
  says that nothing else does.
* `Site.Kept` — what holds of a site from step to step; `Command.preserves_runBy` says that it holds
  after every call.
* `Fleet.compiles_once` — the same for fleets, at any time that somebody asks for a program.
-/

namespace Offload

open Step

/-! ### Programs and calls of the compiler -/

namespace Context

variable {κ : KernelId → Kernel} {x : Compiler} {cs log : List CompilerCall} {k : Kernel}
  {c c' : Context} {r : Except DeviceError Program}

/-- A context tallies with the calls `log` of its compiler. -/
structure Tallies (κ : KernelId → Kernel) (log : List CompilerCall) (c : Context) : Prop where
  /-- all calls were for the device -/
  target : ∀ a ∈ log, a.key.target = c.device.target
  /-- after a success, there are no calls for the same kernel -/
  once : log.Pairwise fun a b => a.succeeded = true → b.key.kernel ≠ a.key.kernel
  /-- there is a program where a call has succeeded -/
  program : ∀ key, (c.program? key).isSome = true ↔ ⟨key, true⟩ ∈ log
  /-- it was made from the kernel that it is filed under -/
  kernel : ∀ key p, c.program? key = some p → p.kernel = κ key.kernel

/-- What comes of asking for the program of a kernel after the calls `log` of the compiler `x`. -/
inductive Provides (x : Compiler) (log : List CompilerCall) (k : Kernel) (c : Context) :
    Except DeviceError Program → Context → Prop where
  /-- a call has succeeded before, and the compiler is not called again -/
  | found {p : Program} (hlog : ⟨⟨k.id, c.device.target⟩, true⟩ ∈ log)
    (hp : c.program? ⟨k.id, c.device.target⟩ = some p) (hk : p.kernel = k) :
    Provides x log k c (.ok p) c
  /-- the compiler is called and succeeds, and the program is kept -/
  | compiled {p : Program} {c' : Context} (hlog : ⟨⟨k.id, c.device.target⟩, true⟩ ∉ log)
    (hanswer : x.answer c.calls k c.device.target = .ok ()) (hk : p.kernel = k)
    (hdevice : c'.device = c.device)
    (hcalls : c'.calls = c.calls.push ⟨⟨k.id, c.device.target⟩, true⟩)
    (hprograms : c'.programs = (⟨k.id, c.device.target⟩, p) :: c.programs) :
    Provides x log k c (.ok p) c'
  /-- the compiler is called and fails, and nothing is kept -/
  | failed {e : DeviceError} {c' : Context} (hlog : ⟨⟨k.id, c.device.target⟩, true⟩ ∉ log)
    (hanswer : x.answer c.calls k c.device.target = .error e) (hdevice : c'.device = c.device)
    (hcalls : c'.calls = c.calls.push ⟨⟨k.id, c.device.target⟩, false⟩)
    (hprograms : c'.programs = c.programs) : Provides x log k c (.error e) c'

/-- A program that is handed out is one of the kernel. -/
theorem Provides.kernel {p : Program} (h : c.Provides x log k (.ok p) c') : p.kernel = k := by
  cases h with
  | found _ _ hk => exact hk
  | compiled _ _ hk => exact hk

theorem Tallies.nil (hp : c.programs = []) : c.Tallies κ [] := by
  have hnone : ∀ key, c.program? key = none := fun key => by rw [program?, hp]; rfl
  refine ⟨fun _ h => absurd h List.not_mem_nil, .nil, fun key => ?_, fun key p h => ?_⟩
  · simp [hnone key]
  · rw [hnone key] at h
    cases h

/-- One more call, for a kernel for which none has succeeded. -/
theorem Tallies.once_append (h : c.Tallies κ log) {key : ProgramKey} (succeeded : Bool)
    (ht : key.target = c.device.target) (hkey : ⟨key, true⟩ ∉ log) :
    List.Pairwise (fun a b : CompilerCall => a.succeeded = true → b.key.kernel ≠ a.key.kernel)
      (log ++ [⟨key, succeeded⟩]) := by
  refine List.pairwise_append.mpr ⟨h.once, List.pairwise_singleton _ _, ?_⟩
  rintro a ha b' hb hsucceeded hkernel
  obtain rfl := List.mem_singleton.mp hb
  -- there is one target only, so that call was for the same key
  obtain ⟨⟨id, t⟩, succeeded⟩ := a
  obtain ⟨id', t'⟩ := key
  have htarget : t = c.device.target := h.target _ ha
  dsimp only at ht hsucceeded hkernel
  subst ht hkernel hsucceeded htarget
  exact hkey ha

/-- The context accounts for all calls of its compiler since the calls `cs`. -/
def Accounts (κ : KernelId → Kernel) (cs : List CompilerCall) (c : Context) : Prop :=
  ∃ log, c.calls.toList = cs ++ log ∧ c.Tallies κ log

/-- It still does so after somebody has asked for a program. -/
theorem Provides.accounts (h : c.Provides x log k r c') (hk : κ k.id = k) (hc : c.Tallies κ log)
    (hcs : c.calls.toList = cs ++ log) : c'.Accounts κ cs := by
  have htarget : ∀ b, ∀ a ∈ log ++ [⟨⟨k.id, c.device.target⟩, b⟩],
      a.key.target = c.device.target := by
    intro b a ha
    rcases List.mem_append.mp ha with ha | ha
    · exact hc.target a ha
    · rw [List.mem_singleton.mp ha]
  cases h with
  | found => exact ⟨log, hcs, hc⟩
  | @compiled p c' hlog _ hkernel hdevice hcalls hprograms =>
    have hself : c'.program? ⟨k.id, c.device.target⟩ = some p := by simp [program?, hprograms]
    have hother : ∀ key, key ≠ ⟨k.id, c.device.target⟩ → c'.program? key = c.program? key := by
      intro key hkey
      have hne : ((⟨k.id, c.device.target⟩ : ProgramKey) == key) = false := by
        simpa using Ne.symm hkey
      simp [program?, hprograms, hne]
    refine ⟨log ++ [⟨⟨k.id, c.device.target⟩, true⟩], ?_, ?_, hc.once_append true rfl hlog,
      fun key => ?_, fun key q hq => ?_⟩
    · rw [hcalls, Array.toList_push, hcs, List.append_assoc]
    · rw [hdevice]
      exact htarget true
    · by_cases hkey : key = ⟨k.id, c.device.target⟩
      · simp [hkey, hself]
      · simp [hother key hkey, hc.program key, hkey]
    · by_cases hkey : key = ⟨k.id, c.device.target⟩
      · subst hkey
        obtain rfl := Option.some.inj (hself.symm.trans hq)
        exact hkernel.trans hk.symm
      · exact hc.kernel key q ((hother key hkey).symm.trans hq)
  | @failed e c' hlog _ hdevice hcalls hprograms =>
    have hsame : ∀ key, c'.program? key = c.program? key := fun key => by
      rw [program?, program?, hprograms]
    refine ⟨log ++ [⟨⟨k.id, c.device.target⟩, false⟩], ?_, ?_, hc.once_append false rfl hlog,
      fun key => ?_, fun key q hq => hc.kernel key q ((hsame key).symm.trans hq)⟩
    · rw [hcalls, Array.toList_push, hcs, List.append_assoc]
    · rw [hdevice]
      exact htarget false
    · simp [hsame key, hc.program key]

end Context

/-- Asking for a program comes to one of three things, whatever the compiler says. -/
theorem Compiler.provides_compile {κ : KernelId → Kernel} {log : List CompilerCall} {k : Kernel}
    {c : Context} (x : Compiler) (hc : c.Tallies κ log) (hk : κ k.id = k) :
    c.Provides x log k (x.compile k c).1 (x.compile k c).2 := by
  have hlog := hc.program ⟨k.id, c.device.target⟩
  rw [compile_apply]
  rcases hp : c.program? ⟨k.id, c.device.target⟩ with _ | p <;> rw [hp] at hlog
  · have hnot : ⟨⟨k.id, c.device.target⟩, true⟩ ∉ log := fun h => nomatch hlog.mpr h
    dsimp only
    rcases hanswer : x.answer c.calls k c.device.target with e | u
    · exact .failed hnot hanswer rfl rfl rfl
    · exact .compiled hnot hanswer rfl rfl rfl rfl
  · exact .found (hlog.mp rfl) hp ((hc.kernel _ p hp).trans hk)

/-! ### What leaves programs alone -/

namespace Context

variable {κ : KernelId → Kernel} {cs log : List CompilerCall} {c c' : Context}

theorem Tallies.of_same (hc : c.Tallies κ log) (h : SamePrograms c c') : c'.Tallies κ log := by
  have hsame : ∀ key, c'.program? key = c.program? key := fun key => by
    rw [program?, program?, h.programs]
  refine ⟨fun a ha => (hc.target a ha).trans h.target.symm, hc.once, fun key => ?_,
    fun key p hp => hc.kernel key p ((hsame key).symm.trans hp)⟩
  rw [hsame]
  exact hc.program key

theorem Accounts.of_same (hc : c.Accounts κ cs) (h : SamePrograms c c') : c'.Accounts κ cs := by
  obtain ⟨log, hcs, htallies⟩ := hc
  exact ⟨log, h.calls ▸ hcs, htallies.of_same h⟩

end Context

/-! ### What holds from step to step -/

namespace Site

/-- Kernels of nodes have their identities to themselves, and calls of the compiler are accounted
for. -/
structure Kept (κ : KernelId → Kernel) (cs : List CompilerCall) (s : Site) : Prop where
  /-- the kernels -/
  known : ∀ n ∈ s.graph.nodes, n.action.Known κ
  /-- the calls -/
  accounts : s.machine.context.Accounts κ cs

/-- If this holds of a site, it holds of the other one. -/
def Preserves (κ : KernelId → Kernel) (cs : List CompilerCall) (s s' : Site) : Prop :=
  s.Kept κ cs → s'.Kept κ cs

variable {κ : KernelId → Kernel} {cs : List CompilerCall} {s s' : Site}

theorem Kept.of_same (h : s.Kept κ cs) (hn : s'.graph.nodes = s.graph.nodes)
    (hc : s.machine.context.SamePrograms s'.machine.context) : s'.Kept κ cs :=
  ⟨fun n h' => h.known n (hn ▸ h'), h.accounts.of_same hc⟩

theorem allows_preserves (κ : KernelId → Kernel) (cs : List CompilerCall) :
    Allows (Preserves κ cs) fun _ => True where
  refl _ h := h
  trans _ _ _ h h' hs := h' (h hs)
  graph _ hf s h := h.of_same (hf.nodes s.graph) (.refl _)
  ensureAllocated slot _ s h :=
    h.of_same rfl (Workspace.samePrograms_ensureAllocated slot s.workspace)
  upload slot _ s h := h.of_same rfl (Workspace.samePrograms_upload slot s.workspace)
  download slot _ s h := h.of_same rfl (Workspace.samePrograms_download slot s.workspace)
  wait s h := h.of_same rfl
    ⟨rfl, rfl, (Device.synchronize_changes (fun _ => False) s.workspace.device).target⟩

end Site

namespace Graph

open Offload.Site

variable {κ : KernelId → Kernel} {cs : List CompilerCall} {s : Site} {k : Kernel}

theorem preserves_makeRoom (node : String) (stage : Stage) (slots : List SlotId) :
    Follows (Preserves κ cs) (makeRoom node stage slots) :=
  (allows_preserves κ cs).makeRoom (fun _ _ => trivial) node stage

theorem preserves_compile (x : Compiler) (hk : κ k.id = k) (node : String) (stage : Stage) :
    Follows (Preserves κ cs) (inNode node stage (Workspace.onContext (x.compile k))) := by
  rintro s ⟨hknown, log, hcs, htallies⟩
  exact ⟨hknown, (x.provides_compile htallies hk).accounts hk htallies hcs⟩

theorem preserves_launchGiven (node : String) (k : Kernel) (args : List TaskArg) :
    Follows (Preserves κ cs) (launchGiven node k args) := by
  refine .get_bind fun s => ?_
  rcases hgiven : args.mapM (launchArg s.graph.table) with e | given
  · exact id
  · have hrun : Preserves κ cs s
        (inNode node .launch (Workspace.onDevice (Device.launch k given)) s).2 := fun h =>
      h.of_same rfl ⟨rfl, rfl, (Device.launch_changes s.workspace.device k given).target⟩
    exact (snd_bind_pure (inNode node .launch (Workspace.onDevice (Device.launch k given))) ()
      s).symm ▸ hrun

theorem preserves_launchBy (x : Compiler) (hk : κ k.id = k) (node : String)
    (args : List TaskArg) : Follows (Preserves κ cs) (launchBy x.compile node k args) :=
  (allows_preserves κ cs).bind (preserves_makeRoom node .launch _) fun _ =>
    (allows_preserves κ cs).bind (preserves_compile x hk node .launch) fun p =>
      preserves_launchGiven node p.kernel args

theorem preserves_performBy (x : Compiler) {a : Action} (ha : a.Known κ) (node : String) :
    Follows (Preserves κ cs) (performBy x.compile node a) := by
  have hK := allows_preserves κ cs
  cases a with
  | task k args => exact hK.bind (preserves_launchBy x ha node args) fun _ => hK.pure 0
  | streamIn slots => exact hK.transferIn (fun _ _ => trivial) node true
  | copyIn slots => exact hK.transferIn (fun _ _ => trivial) node false
  | streamOut slots => exact hK.transferOut (fun _ _ => trivial) node
  | barrier => exact hK.bind (hK.wait.mapError _) fun _ => hK.pure 0

theorem preserves_runNodeBy (x : Compiler) {n : Node} (hn : n.action.Known κ) (run : Nat) :
    Follows (Preserves κ cs) (runNodeBy x.compile run n) := by
  have hK := allows_preserves κ cs
  refine .get_bind fun s => hK.bind (preserves_performBy x hn _) (fun bytes => ?_) s
  exact hK.update ⟨fun _ => rfl, fun _ => rfl, fun _ => rfl, fun _ h => h⟩

/-- Some nodes of a graph that are carried out in order. -/
theorem preserves_runNodes (x : Compiler) {ns : List Node} (hns : ∀ n ∈ ns, n.action.Known κ)
    (run : Nat) : Follows (Preserves κ cs) (Step.each ns (runNodeBy x.compile run)) :=
  .each (allows_preserves κ cs).refl (allows_preserves κ cs).trans fun n hn =>
    preserves_runNodeBy x (hns n hn) run

theorem preserves_runAllBy (x : Compiler) (run : Nat) :
    Follows (Preserves κ cs) (runAllBy x.compile run) := by
  have hK := allows_preserves κ cs
  refine .get_bind fun s hs => ?_
  exact hK.bind (preserves_runNodes x hs.known run) (fun _ => hK.wait.mapError _) s hs

theorem preserves_ensureLive : Follows (Preserves κ cs) ensureLive :=
  .get_bind fun s => Follows.ite (m := (throw _ : Step GraphError Site Unit)) (fun _ => id)
    (.pure (fun _ => id) ()) s

theorem preserves_executeBy (x : Compiler) : Follows (Preserves κ cs) (executeBy x.compile) := by
  have hK := allows_preserves κ cs
  have hphase : ∀ phase, phase ≠ .disposed → Follows (Preserves κ cs)
      (update ({ · with phase })) := fun _ h => hK.update (minor_phase h)
  have hlift : ∀ r, Follows (Preserves κ cs) (Step.lift r : Step GraphError Site Unit) :=
    fun _ _ h => h
  refine hK.bind preserves_ensureLive fun _ => .get_bind fun s => ?_
  have hattempt : Follows (Preserves κ cs)
      ((runAllBy x.compile (s.graph.runs + 1)).attempt : Step GraphError Site _) :=
    preserves_runAllBy x _
  refine hK.bind (hphase .executing nofun) (fun _ => hK.bind hattempt fun outcome =>
    hK.bind (hphase .idle nofun) fun _ => hK.bind (hlift outcome) fun _ =>
      hK.bind (hK.update ?_) fun _ => hK.pure _) s
  exact ⟨fun _ => rfl, fun _ => rfl, fun _ => rfl, fun _ h => h⟩

theorem preserves_warmNodeBy (x : Compiler) {n : Node} (hn : n.action.Known κ) :
    Follows (Preserves κ cs) (warmNodeBy x.compile n) := by
  have hK := allows_preserves κ cs
  refine .get_bind fun s => hK.bind (preserves_makeRoom _ .transfer _) (fun _ => ?_) s
  cases ha : n.action with
  | task k args =>
    rw [ha] at hn
    exact hK.bind (preserves_compile x hn _ .launch) fun _ => hK.pure ()
  | _ => exact hK.pure ()

/-- Some nodes of a graph that are warmed up in order. -/
theorem preserves_warmNodes (x : Compiler) {ns : List Node} (hns : ∀ n ∈ ns, n.action.Known κ) :
    Follows (Preserves κ cs) (Step.each ns (warmNodeBy x.compile)) :=
  .each (allows_preserves κ cs).refl (allows_preserves κ cs).trans fun n hn =>
    preserves_warmNodeBy x (hns n hn)

theorem preserves_warmupBy (x : Compiler) : Follows (Preserves κ cs) (warmupBy x.compile) := by
  have hK := allows_preserves κ cs
  refine hK.bind preserves_ensureLive fun _ => .get_bind fun s hs => ?_
  refine hK.bind (preserves_warmNodes x hs.known) (fun _ => hK.update ?_) s hs
  constructor <;> intro g <;> split <;> simp

/-- Whatever program a task gets, its own kernel is launched. -/
theorem launchBy_eq_launchOwn (x : Compiler) (hk : κ k.id = k) (hs : s.Kept κ cs) (node : String)
    (args : List TaskArg) :
    launchBy x.compile node k args s = launchOwn x.compile node k args s := by
  have hroom := preserves_makeRoom node .launch (Action.task k args).slots s hs
  rw [launchBy, launchOwn, bind_apply, bind_apply]
  rcases hm : makeRoom node .launch (Action.task k args).slots s with ⟨e | u, m⟩
  · rfl
  · rw [hm] at hroom
    obtain ⟨-, log, -, htallies⟩ := hroom
    have hprovides := x.provides_compile htallies hk
    dsimp only
    rw [bind_apply, bind_apply, inNode_apply, Workspace.onContext, on_apply]
    dsimp only [Site.workspace]
    rcases hc : x.compile k m.machine.context with ⟨e | p, c⟩
    · rfl
    · rw [hc] at hprovides
      show launchGiven node p.kernel args _ = launchGiven node k args _
      rw [hprovides.kernel]

end Graph

/-! ### Calls -/

namespace Command

variable {κ : KernelId → Kernel} {cs : List CompilerCall} {s : Site}

/-- The kernel of a task has its identity to itself. -/
def Known (κ : KernelId → Kernel) : Command → Prop
  | task _ k _ => κ k.id = k
  | _ => True

/-- Whatever is asked of a graph, calls of the compiler are accounted for. -/
theorem preserves_runBy (x : Compiler) {c : Command} (hc : c.Known κ) :
    Follows (Site.Preserves κ cs) (c.runBy x.compile) := by
  intro s hs
  have hK := Site.allows_preserves κ cs
  by_cases hw : c = .warmup
  · subst hw
    exact hK.bind (Graph.preserves_warmupBy x) (fun _ => hK.pure 0) s hs
  by_cases he : c = .execute
  · subst he
    exact Graph.preserves_executeBy x s hs
  -- nothing else has to do with programs
  rw [runBy_of_ne hw he]
  rcases hadds : c.adds
  case true =>
    rcases run_of_adds hadds s with ⟨e, hrun⟩ | ⟨name, a, t, hadd, hrun⟩ <;> rw [hrun]
    · exact hs
    · have ha : a.Known κ := by
        cases hadd with
        | task => exact hc
        | _ => trivial
      refine ⟨fun n hn => ?_, hs.accounts⟩
      rcases List.mem_append.mp hn with hn | hn
      · exact hs.known n hn
      · rw [List.mem_singleton.mp hn]
        exact ha
  cases c with
  | warmup => exact absurd rfl hw
  | execute => exact absurd rfl he
  | rebind old new =>
    rcases run_rebind old new s with ⟨e, hrun⟩ | ⟨slot, -, -, hrun⟩ <;> rw [hrun]
    · exact hs
    · exact hs.of_same rfl (samePrograms_rebound s.workspace old new slot)
  | synchronize bs =>
    rw [run, snd_bind_pure]
    exact hK.synchronize (fun _ _ _ _ => trivial) hs
  | clearProfile =>
    rw [run, snd_bind_pure, Graph.clearProfile_apply]
    split
    · exact hs
    · exact hs.of_same rfl (.refl _)
  | dispose =>
    simp only [run, Graph.dispose]
    split
    · exact hs
    · exact hs.of_same rfl (samePrograms_foldl_release _ s.workspace)
  | _ => cases hadds

end Command

/-- A run of `s`, or a warm-up, comes to the node `n` and has led to `m` by then. The stage is what
room is made for there. -/
inductive Site.ComesTo (compile : Kernel → Step DeviceError Context Program) (s : Site) :
    Graph.Stage → Node → Site → Prop where
  /-- a run -/
  | run {i : Nat} {n : Node} {m : Site} (hlive : s.graph.phase ≠ .disposed)
    (hbefore : Step.each (s.graph.nodes.take i) (Graph.runNodeBy compile (s.graph.runs + 1))
      s.begun = (.ok (), m)) (hn : s.graph.nodes[i]? = some n) : ComesTo compile s .launch n m
  /-- a warm-up -/
  | warmup {i : Nat} {n : Node} {m : Site} (hlive : s.graph.phase ≠ .disposed)
    (hbefore : Step.each (s.graph.nodes.take i) (Graph.warmNodeBy compile) s = (.ok (), m))
    (hn : s.graph.nodes[i]? = some n) : ComesTo compile s .transfer n m

/-- Calls of the compiler are accounted for at every node. -/
theorem Site.ComesTo.kept {κ : KernelId → Kernel} {cs : List CompilerCall} {x : Compiler}
    {s m : Site} {stage : Graph.Stage} {n : Node} (h : s.ComesTo x.compile stage n m)
    (hs : s.Kept κ cs) : n.action.Known κ ∧ m.Kept κ cs := by
  have htake : ∀ i, ∀ n ∈ s.graph.nodes.take i, n.action.Known κ := fun i n hn =>
    hs.known n (List.mem_of_mem_take hn)
  cases h with
  | @run i n m _ hbefore hn =>
    have hbegun : s.begun.Kept κ cs := hs.of_same rfl (.refl _)
    have hend := Graph.preserves_runNodes x (htake i) (s.graph.runs + 1) _ hbegun
    rw [hbefore] at hend
    exact ⟨hs.known n (List.mem_of_getElem? hn), hend⟩
  | @warmup i n m _ hbefore hn =>
    have hend := Graph.preserves_warmNodes x (htake i) _ hs
    rw [hbefore] at hend
    exact ⟨hs.known n (List.mem_of_getElem? hn), hend⟩

/-! ### Fleets -/

/-- The kernel of a task has its identity to itself. -/
def Request.Known {ι δ : Type} (κ : KernelId → Kernel) : Request ι δ → Prop
  | call _ c => c.Known κ
  | host _ | configure _ _ _ => True

namespace Fleet

variable {ι δ : Type} [DecidableEq ι] [DecidableEq δ] {κ : KernelId → Kernel}
  {cs : δ → List CompilerCall} {f f₀ : Fleet ι δ} {rs : List (Request ι δ)}

/-- Kernels of nodes have their identities to themselves, and calls of all compilers are accounted
for. -/
structure Kept (κ : KernelId → Kernel) (cs : δ → List CompilerCall) (f : Fleet ι δ) : Prop where
  /-- the kernels -/
  known : ∀ u, ∀ n ∈ (f.graph u).nodes, n.action.Known κ
  /-- the calls -/
  accounts : ∀ d, (f.context d).Accounts κ (cs d)

omit [DecidableEq ι] [DecidableEq δ] in
theorem Kept.site (h : f.Kept κ cs) (u : ι) : (f.site u).Kept κ (cs (f.home u)) :=
  ⟨h.known u, h.accounts _⟩

/-- Whatever is asked of a fleet, calls of the compilers are accounted for. -/
theorem Kept.performBy (h : f.Kept κ cs) (x : δ → Compiler) {r : Request ι δ} (hr : r.Known κ) :
    (r.performBy x f).2.Kept κ cs := by
  cases r with
  | host a =>
    rw [Request.performBy]
    exact ⟨h.known, h.accounts⟩
  | configure d faults capacity =>
    rw [Request.performBy]
    refine ⟨h.known, ?_⟩
    exact (Function.forall_update_iff f.context fun d c => c.Accounts κ (cs d)).mpr
      ⟨(h.accounts d).of_same ⟨rfl, rfl, rfl⟩, fun e _ => h.accounts e⟩
  | call u c =>
    obtain ⟨hknown, haccounts⟩ := Command.preserves_runBy (x (f.home u)) hr _ (h.site u)
    constructor
    case known =>
      exact (Function.forall_update_iff f.graph fun _ g => ∀ n ∈ g.nodes, n.action.Known κ).mpr
        ⟨hknown, fun v _ => h.known v⟩
    case accounts =>
      exact (Function.forall_update_iff f.context fun d c => c.Accounts κ (cs d)).mpr
        ⟨haccounts, fun e _ => h.accounts e⟩

theorem Kept.performAllBy (h : f.Kept κ cs) (x : δ → Compiler) (hrs : ∀ r ∈ rs, r.Known κ) :
    (performAllBy x rs f).2.Kept κ cs := by
  induction rs generalizing f with
  | nil => exact h
  | cons r rs ih =>
    obtain ⟨hr, hrs⟩ := List.forall_mem_cons.mp hrs
    exact ih (h.performBy x hr) hrs

omit [DecidableEq ι] [DecidableEq δ] in
theorem Start.kept (h : Start f) : f.Kept κ fun d => (f.context d).calls.toList := by
  constructor
  case known =>
    intro u n hn
    obtain ⟨name, hu⟩ := h.graph u
    rw [hu] at hn
    cases hn
  case accounts => exact fun d => ⟨[], (List.append_nil _).symm, .nil (h.programs d)⟩

/-- Every kernel is compiled once. Whatever is asked of new graphs, and whatever the compilers of
their devices say to it, programs tally with calls of the compilers afterwards: after a success
there are no more calls for the kernel, and programs are there where there was a success. It is the
same whenever a run or a warm-up has come to a task and has made room for it, so that its program is
found or the compiler is called next. A task launches its own kernel. Where the compilers are those
for the host, this is about fleets as they are. -/
theorem compiles_once (x : δ → Compiler) (h₀ : Start f₀) (hrs : ∀ r ∈ rs, r.Known κ)
    (hf : f = (performAllBy x rs f₀).2) :
    (∀ d, (f.context d).Accounts κ (f₀.context d).calls.toList) ∧
      (∀ u stage n m m' k args, (f.site u).ComesTo (x (f.home u)).compile stage n m →
        n.action = .task k args →
          Graph.makeRoom (m.graph.qualified n.name) stage n.action.slots m = (.ok (), m') →
            ∃ log, m'.machine.context.calls.toList =
                (f₀.context (f.home u)).calls.toList ++ log ∧
              m'.machine.context.Tallies κ log ∧
              m'.machine.context.Provides (x (f.home u)) log k
                ((x (f.home u)).compile k m'.machine.context).1
                ((x (f.home u)).compile k m'.machine.context).2) ∧
      (∀ u n m k args, (f.site u).ComesTo (x (f.home u)).compile .launch n m →
        n.action = .task k args →
          Graph.launchBy (x (f.home u)).compile (m.graph.qualified n.name) k args m =
            Graph.launchOwn (x (f.home u)).compile (m.graph.qualified n.name) k args m) ∧
      performAllBy (fun _ => .host) rs f₀ = performAll rs f₀ := by
  have hkept := h₀.kept.performAllBy x hrs
  rw [← hf] at hkept
  refine ⟨hkept.accounts, ?_, ?_, performAllBy_host rs f₀⟩
  · intro u stage n m m' k args hcomes ha hroom
    obtain ⟨hk, hm⟩ := hcomes.kept (hkept.site u)
    rw [ha] at hk
    have hend := Graph.preserves_makeRoom (m.graph.qualified n.name) stage n.action.slots m hm
    rw [hroom] at hend
    obtain ⟨-, log, hcalls, htallies⟩ := hend
    exact ⟨log, hcalls, htallies, (x (f.home u)).provides_compile htallies hk⟩
  · intro u n m k args hcomes ha
    obtain ⟨hk, hm⟩ := hcomes.kept (hkept.site u)
    rw [ha] at hk
    exact Graph.launchBy_eq_launchOwn _ hk hm _ args

/-- Two kernels with one name, and a compiler that fails at first. -/
theorem compiles_once_retried :
    let x : Unit → Compiler := fun _ =>
      ⟨fun calls k _ => if calls.size = 0 then .error (.compilation k.name "busy") else .ok ()⟩
    let f₀ := single "g" none []
    let rs : List (Request Unit Unit) := [.call () (.task "a" (Kernel.idle ⟨0⟩) []),
      .call () (.task "b" (Kernel.idle ⟨1⟩) []), .call () .warmup, .call () .execute,
      .call () .execute]
    let f := (performAllBy x rs f₀).2
    Start f₀ ∧ (∀ r ∈ rs, r.Known Kernel.idle) ∧ (f.context ()).Accounts Kernel.idle [] ∧
      (f.context ()).calls.toList =
        [⟨⟨⟨0⟩, .cpu⟩, false⟩, ⟨⟨⟨0⟩, .cpu⟩, true⟩, ⟨⟨⟨1⟩, .cpu⟩, true⟩] := by
  intro x f₀ rs f
  have h₀ : Start f₀ := start_single
  have hrs : ∀ r ∈ rs, r.Known Kernel.idle := by
    simp only [rs, List.forall_mem_cons]
    exact ⟨rfl, rfl, trivial, trivial, trivial, List.forall_mem_nil _⟩
  exact ⟨h₀, hrs, (compiles_once x h₀ hrs rfl).1 (), by decide +kernel⟩

end Fleet

end Offload
