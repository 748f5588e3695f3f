import Offload.Bench.Sgemv
import Offload.Proofs.Lifecycle
import Offload.Proofs.Station

/-!
# A benchmark gives all memory back

A benchmark has the blocks of its graph and no others. Each of its phases keeps the books of the
device balanced, whether the phase succeeds or fails, and tearing down gives everything back. As the
runner tears down on every way out, a run leaves no memory in use.

* `Site.Sustains` — a graph in order stays in order, and so do the books; `Sgemv.sustains_build`.
* `Sgemv.Orderly` — what holds of a benchmark between its phases, and `Sgemv.Emptied`, what holds
  of it when it was torn down.
* `Sgemv.leads_run` — every way out of a run leads from the one to the other.
* `Sgemv.run_leaves_nothing` — after a run the device has no memory in use and keeps no blocks, and
  the benchmark has no graph.
-/

namespace Offload

open Step

/-! ### Graphs that can be used -/

/-- What holds between its calls of a graph that was not disposed of. -/
structure Graph.Usable (g : Graph) : Prop where
  /-- it is in order -/
  tidy : g.Tidy
  /-- it was not disposed of -/
  live : g.phase ≠ .disposed
  /-- it is not running -/
  rests : g.phase ≠ .executing

theorem Graph.Usable.empty (name : String) : (Graph.empty name).Usable :=
  ⟨.empty name, nofun, nofun⟩

namespace Phase

variable {p : Phase} {e : Entry}

/-- Only disposing of a graph disposes of it. -/
theorem next_ne_disposed (hp : p ≠ disposed) (he : e.disposes = false) : p.next e ≠ disposed := by
  rw [next, if_neg (by simp [hp, he])]
  repeat' split
  all_goals exact noConfusion

end Phase

/-- A graph that can be used can be used afterwards, and has kept the books balanced. -/
def Site.Sustains (s s' : Site) : Prop :=
  s.graph.Usable → s'.graph.Usable ∧ s.workspace.Balances s'.workspace

namespace Site

theorem sustains_refl (s : Site) : Sustains s s := fun h => ⟨h, .refl _⟩

theorem sustains_trans (s s' s'' : Site) (h : Sustains s s') (h' : Sustains s' s'') :
    Sustains s s'' := fun hs =>
  have hs' := h hs
  have hs'' := h' hs'.1
  ⟨hs''.1, hs'.2.trans hs''.2⟩

/-- Every call but the last one. -/
theorem sustains_run {c : Command} (hc : c ≠ .dispose) : Follows Sustains c.run := by
  intro s hs
  obtain ⟨htidy, hbooks⟩ := Command.balances_run hs.tidy c
  have hphase := (Graph.lives_run (.call c) s).phase hs.rests
  rw [Use.run_call] at hphase
  have hdisposes : ∀ o, Entry.disposes ⟨.call c, o⟩ = false := by
    intro o
    cases c <;> first | rfl | exact absurd rfl hc
  refine ⟨⟨htidy, ?_, ?_⟩, hbooks⟩
  · exact hphase ▸ Phase.next_ne_disposed hs.live (hdisposes _)
  · exact hphase ▸ Phase.next_ne_executing _ _

/-- A call that has no result of its own. -/
theorem sustains_of_run {c : Command} {m : Step GraphError Site Unit} (hc : c ≠ .dispose)
    (hm : c.run = do m; return 0) : Follows Sustains m := by
  intro s
  have h := sustains_run hc s
  rwa [hm, snd_bind_pure] at h

end Site

namespace Bench.Sgemv

open Site

variable {limit : Option Nat} {keep : Nat} {s : Sgemv}

/-- The graph of the benchmark is built in four parts, two of which may be left out. -/
theorem build_eq (config : Config) (kernel : Kernel) (m n : Scalar) (a x y : HostId) :
    build config kernel m n a x y =
      (if config.streamIn then Graph.streamIn [a, x] else Graph.copyIn [a, x]) >>= fun _ =>
      Graph.task name kernel [.scalar m, .scalar n, .buffer a, .buffer x, .buffer y] >>= fun _ =>
      (if config.streamOut then Graph.streamOut [y] else pure ()) >>= fun _ =>
      if config.warmup then Graph.warmup else pure () := by
  rw [build]
  cases config.streamIn <;> cases config.streamOut <;> rfl

/-- Building the graph of the benchmark, up to where that fails. -/
theorem sustains_build (config : Config) (kernel : Kernel) (m n : Scalar) (a x y : HostId) :
    Follows Sustains (build config kernel m n a x y) := by
  rw [build_eq]
  refine .bind sustains_trans (.ite ?_ ?_) fun _ => .bind sustains_trans ?_ fun _ =>
    .bind sustains_trans (.ite ?_ ?_) fun _ => .ite ?_ ?_
  · exact sustains_of_run (c := .streamIn [a, x]) nofun rfl
  · exact sustains_of_run (c := .copyIn [a, x]) nofun rfl
  · exact sustains_of_run (c := .task name kernel _) nofun rfl
  · exact sustains_of_run (c := .streamOut [y]) nofun rfl
  · exact .pure sustains_refl ()
  · exact sustains_of_run (c := .warmup) nofun rfl
  · exact .pure sustains_refl ()

/-! ### Between the phases -/

/-- The blocks of the benchmark, which are those of its graph. -/
def blocks (s : Sgemv) : List BlockId := (s.data.map (·.graph.table.owned)).getD []

/-- What holds between the phases of a benchmark. -/
structure Orderly (limit : Option Nat) (keep : Nat) (s : Sgemv) : Prop where
  /-- the graph can be used, if there is one -/
  usable : ∀ d, s.data = some d → d.graph.Usable
  /-- nothing is out but the blocks of the graph -/
  books : s.machine.context.device.pool.Balanced limit keep s.blocks
  /-- resets succeed -/
  resets : ∀ n, s.machine.context.device.faults .reset n = false

/-- A graph that is given up gives its blocks back. -/
theorem balances_discard (limit : Option Nat) (keep : Nat) (machine : Machine) (g : Graph) :
    (∀ others, machine.context.device.pool.Balanced limit keep (g.table.owned ++ others) →
      (discard machine g).context.device.pool.Balanced limit keep others) ∧
      (discard machine g).context.device.faults = machine.context.device.faults := by
  have h := Workspace.balances_foldl_release (List.range g.table.slots.size) ⟨machine, g.table⟩
  refine ⟨fun others hb => ?_, h.faults⟩
  have hbooks := h.books limit keep others hb
  rwa [← Workspace.releaseAll, Workspace.owned_releaseAll] at hbooks

/-- A size that is too large leaves everything as it is. -/
theorem setUp_of_error {x : Nat → Single} {e : BenchError}
    (h : kernelExtent "benchmark.m" s.config.m = .error e ∨
      (∃ rows, kernelExtent "benchmark.m" s.config.m = .ok rows) ∧
        kernelExtent "benchmark.n" s.config.n = .error e) : setUp x s = (.error e, s) := by
  rcases h with h | ⟨⟨rows, h⟩, h'⟩
  · simp only [setUp, bind_apply, get_apply, lift_apply, h]
  · simp only [setUp, bind_apply, get_apply, lift_apply, h, h']

/-- With sizes that are not too large, it depends on the graph how setting up ends. -/
theorem setUp_of_ok {x : Nat → Single} {rows cols : Scalar}
    (hm : kernelExtent "benchmark.m" s.config.m = .ok rows)
    (hn : kernelExtent "benchmark.n" s.config.n = .ok cols) :
    setUp x s =
      let a := s.machine.hosts.insert (.ofList Linear.realType (matrix s.config.m s.config.n))
      let v := a.2.insert (.ofList Linear.realType ((List.range s.config.n).map x))
      let y := v.2.insert (.zeroed Linear.realType s.config.m)
      match build s.config s.kernel rows cols a.1 v.1 y.1
        ⟨{ s.machine with hosts := y.2 }, .empty "benchmark"⟩ with
      | (.error e, site) =>
        (.error (.runtime e), { s with machine := discard site.machine site.graph })
      | (.ok (), site) =>
        (.ok (), { s with
          machine := (s.data.map SgemvData.graph).elim site.machine (discard site.machine)
          data := some ⟨a.1, v.1, y.1, site.graph⟩ }) := by
  simp only [setUp, bind_apply, get_apply, lift_apply, hm, hn]
  split <;> rename_i h
  · simp [h, bind_apply]
  · simp [h]

/-- The blocks of a benchmark that has a graph. -/
theorem blocks_of_data {d : SgemvData} (h : s.data = some d) : s.blocks = d.graph.table.owned := by
  rw [blocks, h, Option.map_some, Option.getD_some]

namespace Orderly

/-- A graph that was built beside the one that there is, up to where that failed. -/
theorem build {r : Except GraphError Unit} {hosts : HostMemory} {m n : Scalar} {a x y : HostId}
    {site : Site} (h : s.Orderly limit keep)
    (hsite : build s.config s.kernel m n a x y ⟨{ s.machine with hosts }, .empty "benchmark"⟩ =
      (r, site)) :
    site.graph.Usable ∧
      site.machine.context.device.pool.Balanced limit keep (site.graph.table.owned ++ s.blocks) ∧
      site.machine.context.device.faults = s.machine.context.device.faults := by
  obtain ⟨husable, hbalances⟩ := sustains_build s.config s.kernel m n a x y
    ⟨{ s.machine with hosts }, .empty "benchmark"⟩ (.empty "benchmark")
  rw [hsite] at husable hbalances
  exact ⟨husable, hbalances.books limit keep s.blocks h.books, hbalances.faults⟩

/-- Setting up leaves the new graph, or what was there before if it fails. -/
theorem setUp (h : s.Orderly limit keep) (x : Nat → Single) :
    (setUp x s).2.Orderly limit keep := by
  rcases hm : kernelExtent "benchmark.m" s.config.m with e | rows
  · rw [setUp_of_error (.inl hm)]
    exact h
  rcases hn : kernelExtent "benchmark.n" s.config.n with e | cols
  · rw [setUp_of_error (.inr ⟨⟨rows, hm⟩, hn⟩)]
    exact h
  rw [setUp_of_ok hm hn]
  dsimp only
  split <;> rename_i site hsite <;> obtain ⟨husable, hbooks, hfaults⟩ := h.build hsite
  · obtain ⟨hdiscard, hsame⟩ := balances_discard limit keep site.machine site.graph
    exact ⟨h.usable, hdiscard s.blocks hbooks, fun n => hsame ▸ hfaults ▸ h.resets n⟩
  · refine ⟨?_, ?_, ?_⟩
    · rintro _ ⟨⟩
      exact husable
    · rcases hd : s.data with _ | d
      · rw [blocks, hd] at hbooks
        simpa [blocks] using hbooks
      · -- the old graph is given up
        rw [blocks_of_data hd] at hbooks
        have hold := (balances_discard limit keep site.machine d.graph).1 site.graph.table.owned
          (hbooks.perm List.perm_append_comm)
        simpa [blocks] using hold
    · intro n
      rcases s.data with _ | d
      · exact hfaults ▸ h.resets n
      · exact (balances_discard limit keep site.machine d.graph).2 ▸
          hfaults ▸ h.resets n

end Orderly

/-- A benchmark that is in order and has a graph is so afterwards. -/
def Sustains (limit : Option Nat) (keep : Nat) (s s' : Sgemv) : Prop :=
  s.Orderly limit keep ∧ s.data.isSome → s'.Orderly limit keep ∧ s'.data.isSome

theorem sustains_trans (s s' s'' : Sgemv) (h : Sustains limit keep s s')
    (h' : Sustains limit keep s' s'') : Sustains limit keep s s'' := fun hs => h' (h hs)

/-- A call of the graph that there is. -/
theorem sustains_onSite {α : Type} {m : Step GraphError Site α} (hm : Follows Site.Sustains m)
    (d : SgemvData) : Follows (Sustains limit keep) (onSite d m) := by
  rintro s ⟨h, hdata⟩
  obtain ⟨d', hd'⟩ := Option.isSome_iff_exists.mp hdata
  obtain ⟨husable, hbalances⟩ := hm ⟨s.machine, d'.graph⟩ (h.usable d' hd')
  have hbooks := hbalances.books limit keep []
  simp only [List.append_nil] at hbooks
  have hsite : (onSite d m s).2 = { s with
      machine := (m ⟨s.machine, d'.graph⟩).2.machine
      data := some { d with graph := (m ⟨s.machine, d'.graph⟩).2.graph } } := by
    simp only [onSite, mapError_apply, on_apply, hd', Option.map_some, Option.getD_some]
  rw [hsite]
  refine ⟨⟨?_, ?_, fun n => hbalances.faults ▸ h.resets n⟩, rfl⟩
  · rintro _ ⟨⟩
    exact husable
  · exact hbooks (blocks_of_data hd' ▸ h.books)

/-- Nothing is done without a graph. -/
theorem ready_bind {α : Type} (f : SgemvData → Step BenchError Sgemv α) (s : Sgemv) :
    (ready >>= f) s = match s.data with
      | some d => f d s
      | none => (.error (.notSetUp name), s) := by
  rw [ready, bind_apply, bind_apply, get_apply]
  rcases h : s.data with _ | d <;> simp [h]

namespace Orderly

/-- A phase that works on the graph that there is. -/
theorem ready_bind {α : Type} {f : SgemvData → Step BenchError Sgemv α} (h : s.Orderly limit keep)
    (hf : ∀ d, Follows (Sustains limit keep) (f d)) :
    ((ready >>= f) s).2.Orderly limit keep := by
  rw [Sgemv.ready_bind]
  rcases hd : s.data with _ | d
  · exact h
  · exact (hf d s ⟨h, by rw [hd]; rfl⟩).1

theorem code (h : s.Orderly limit keep) : (code s).2.Orderly limit keep := by
  refine h.ready_bind fun d => .bind sustains_trans ?_ fun _ => fun _ h => h
  exact sustains_onSite (sustains_run (c := .execute) nofun) d

theorem validate (h : s.Orderly limit keep) : (validate s).2.Orderly limit keep := by
  refine h.ready_bind fun d => ?_
  refine .bind sustains_trans ?_ fun _ => .bind sustains_trans ?_ fun _ =>
    .bind sustains_trans ?_ fun _ => fun _ h => h
  · exact sustains_onSite (sustains_run (c := .execute) nofun) d
  · exact sustains_onSite (sustains_of_run (c := .synchronize [d.y]) nofun rfl) d
  · exact sustains_onSite (sustains_of_run (c := .clearProfile) nofun rfl) d

end Orderly

/-! ### The end -/

/-- What a benchmark is like when everything was given up. -/
structure Emptied (limit : Option Nat) (keep : Nat) (s : Sgemv) : Prop
    extends s.Orderly limit keep where
  /-- there is no graph -/
  data : s.data = none
  /-- nothing is in use -/
  used : s.machine.context.device.memoryUsed = 0
  /-- nothing is kept for later -/
  kept : s.machine.context.device.cachedBlocks = 0

/-- The profile of a graph that can be used can be written out. After that the graph is given
up. -/
theorem finish_apply {d : SgemvData} (h : d.graph.Usable) (s : Sgemv) :
    finish d s = (.ok (), { s with machine := discard s.machine d.graph, data := none }) := by
  have hprofile : Graph.profileText ⟨s.machine, d.graph⟩ =
      (.ok (d.graph.profile.text d.graph.name), ⟨s.machine, d.graph⟩) := by
    rw [Graph.profileText, Graph.ensureLive_bind, if_neg h.live]
    rfl
  simp only [finish, hprofile, Graph.dispose, if_neg h.live]
  rfl

theorem tearDown_apply (s : Sgemv) :
    tearDown s = ((match s.data with
      | none => pure ()
      | some d => finish d) >>= fun _ => resetDevice) s := by
  rw [tearDown, bind_apply, get_apply]
  dsimp only
  rcases s.data with _ | d <;> rfl

namespace Orderly

/-- Without a graph a reset leaves nothing in use. -/
theorem resetDevice (h : s.Orderly limit keep) (hdata : s.data = none) :
    ∃ s', resetDevice s = (.ok (), s') ∧ s'.Emptied limit keep := by
  have hreset := Station.reset_apply s.machine.context.device
  rw [h.resets, if_neg Bool.false_ne_true] at hreset
  have hbooks := h.books.trim.1
  have hblocks : s.blocks = [] := by
    rw [blocks, hdata]
    rfl
  rw [hblocks] at hbooks
  refine ⟨{ s with machine.context.device := (Device.reset s.machine.context.device).2 }, ?_, ?_⟩
  · rw [Sgemv.resetDevice, mapError_apply, on_apply, Context.onDevice, on_apply, hreset]
    rfl
  · rw [hreset]
    refine ⟨⟨h.usable, ?_, h.resets⟩, hdata, hbooks.holds.used, rfl⟩
    rw [blocks, hdata]
    exact hbooks

/-- Tearing down succeeds and leaves nothing. -/
theorem tearDown (h : s.Orderly limit keep) :
    ∃ s', tearDown s = (.ok (), s') ∧ s'.Emptied limit keep := by
  rw [tearDown_apply]
  rcases hd : s.data with _ | d
  · exact h.resetDevice hd
  · obtain ⟨hdiscard, hfaults⟩ := balances_discard limit keep s.machine d.graph
    dsimp only
    rw [bind_of_ok (finish_apply (h.usable d hd) s)]
    refine resetDevice ⟨nofun, hdiscard [] ?_, fun n => hfaults ▸ h.resets n⟩ rfl
    rw [List.append_nil, ← blocks_of_data hd]
    exact h.books

end Orderly

/-! ### Whole runs -/

section Runner

variable {τ α β : Type} {P R : Sgemv → Prop}

/-- Wherever the outside world is at, the computation leads from where `P` holds to where `Q` holds
of what comes out. -/
def Leads (P : Sgemv → Prop) (Q : α → Sgemv → Prop) (m : StateT Sgemv (StateM τ) α) : Prop :=
  ∀ s t, P s → Q (m s t).1.1 (m s t).1.2

namespace Leads

theorem pure {Q : α → Sgemv → Prop} (a : α) (h : ∀ s, P s → Q a s) :
    Leads P Q (pure a : StateT Sgemv (StateM τ) α) := fun s _ hs => h s hs

/-- The outside world does not touch the benchmark. -/
theorem lift (m : StateM τ α) : Leads P (fun _ => P) (StateT.lift m) := fun _ _ h => h

theorem bind {m : StateT Sgemv (StateM τ) α} {f : α → StateT Sgemv (StateM τ) β}
    {Q : α → Sgemv → Prop} {Q' : β → Sgemv → Prop} (hm : Leads P Q m)
    (hf : ∀ a, Leads (Q a) Q' (f a)) : Leads P Q' (m >>= f) :=
  fun s t h => hf (m s t).1.1 _ _ (hm s t h)

/-- A phase of the benchmark. -/
theorem phase {m : Step BenchError Sgemv α} (hm : ∀ s, P s → R (m s).2) :
    Leads P (fun _ => R) (fun s => return m s : StateT Sgemv (StateM τ) (Except BenchError α)) :=
  fun s _ h => hm s h

/-- A computation that is stopped on some condition. -/
theorem ite {p : Prop} [Decidable p] {m m' : StateT Sgemv (StateM τ) α} {Q : α → Sgemv → Prop}
    (hm : p → Leads P Q m) (hm' : ¬ p → Leads P Q m') : Leads P Q (if p then m else m') := by
  split
  · exact hm ‹_›
  · exact hm' ‹_›

end Leads

variable (clock : StateM τ Nat) (x : Nat → Single)

theorem leads_tearDown :
    Leads (Orderly limit keep) (fun _ => Emptied limit keep)
      (benchmark x : Benchmark (StateT Sgemv (StateM τ))).tearDown := by
  refine .phase fun s h => ?_
  obtain ⟨s', hs', hempty⟩ := h.tearDown
  rw [hs']
  exact hempty

/-- The timed runs keep the benchmark in order, wherever they stop. -/
theorem leads_timed (n : Nat) (earlier : List Nat) :
    Leads (Orderly limit keep) (fun _ => Orderly limit keep)
      (Benchmark.timed (StateT.lift clock) (benchmark x) n earlier) := by
  induction n generalizing earlier with
  | zero => exact .pure _ fun _ h => h
  | succ n ih =>
    refine .bind (.lift clock) fun start => .bind (.phase fun s h => h.code) fun r => ?_
    rcases r with e | u
    · exact .pure _ fun _ h => h
    · exact .bind (.lift clock) fun stop => ih _

/-- Tearing down has the last word, and leaves nothing. -/
theorem leads_conclude {outcome : StateT Sgemv (StateM τ) (Except BenchError α)}
    (h : Leads (Emptied limit keep) (fun _ => Emptied limit keep) outcome) :
    Leads (Orderly limit keep) (fun _ => Emptied limit keep)
      (Benchmark.conclude (benchmark x) outcome) := by
  refine .bind (leads_tearDown x) fun r => ?_
  rcases r with e | u
  · exact .pure _ fun _ h => h
  · exact h

/-- How a benchmark stands when a run is over: nothing is left, unless there was no room for so many
durations. -/
def Over (limit : Option Nat) (keep iterations : Nat) :
    Option (Except BenchError Summary) → Sgemv → Prop
  | some _, s => s.Emptied limit keep
  | none, _ => Benchmark.roomBound ≤ iterations

/-- Every way out of a run leads past tearing down. -/
theorem leads_run (iterations : Nat) :
    Leads (Orderly limit keep) (Over limit keep iterations)
      (Benchmark.run (StateT.lift clock) (benchmark x) iterations) := by
  have hcount (valid : Bool) : (if valid then iterations else 0) ≤ iterations := by
    cases valid
    · exact Nat.zero_le _
    · exact Nat.le_refl _
  refine .bind (.phase fun s h => h.setUp x) fun r => ?_
  rcases r with e | u
  · exact .bind (leads_tearDown x) fun _ => .pure _ fun _ h => h
  · refine .bind (.phase fun s h => h.validate) fun valid => ?_
    refine .ite (fun hfull => .pure _ fun _ _ => Nat.le_trans hfull (hcount _)) fun _ => ?_
    refine .bind (leads_timed clock x _ []) fun r => ?_
    rcases r with e | runs
    · exact .bind (leads_conclude x (.pure _ fun _ h => h)) fun _ => .pure _ fun _ h => h
    · exact .bind (leads_conclude x (.bind (fun _ _ h => h) fun device => .pure _ fun _ h => h))
        fun _ => .pure _ fun _ h => h

end Runner

/-- A phase of the benchmark that anybody asks for. -/
inductive Stage where
  /-- make data with these numbers, and a graph -/
  | setUp (x : Nat → Single)
  /-- run once -/
  | code
  /-- run once and look at the result -/
  | validate
  /-- give everything up -/
  | tearDown

/-- The benchmark after a phase, whether that succeeded or not. -/
def Stage.apply : Stage → Sgemv → Sgemv
  | setUp x, s => (Sgemv.setUp x s).2
  | code, s => (Sgemv.code s).2
  | validate, s => (Sgemv.validate s).2
  | tearDown, s => (Sgemv.tearDown s).2

/-- The benchmark after some phases in any order. -/
def applyAll (stages : List Stage) (s : Sgemv) : Sgemv := stages.foldl (fun s a => a.apply s) s

namespace Orderly

/-- What holds between the phases of a benchmark holds after each of them. -/
theorem apply (h : s.Orderly limit keep) (a : Stage) : (a.apply s).Orderly limit keep := by
  cases a with
  | setUp x => exact h.setUp x
  | code => exact h.code
  | validate => exact h.validate
  | tearDown =>
    obtain ⟨s', hs', hempty⟩ := h.tearDown
    rw [Stage.apply, hs']
    exact hempty.toOrderly

theorem applyAll (h : s.Orderly limit keep) (stages : List Stage) :
    (applyAll stages s).Orderly limit keep := by
  induction stages generalizing s with
  | nil => exact h
  | cons a r ih => exact ih (h.apply a)

/-- A new benchmark on a device that nobody uses. -/
theorem new (config : Config) {d : Device} (hfree : ∀ id, d.pool.arena.get? id = none)
    (hused : d.memoryUsed = 0) (hkept : d.cachedBlocks = 0)
    (hresets : ∀ n, d.faults .reset n = false) :
    (Sgemv.new config d).Orderly d.pool.arena.capacity d.pool.keep := by
  have hcached : d.pool.cached = [] := List.eq_nil_of_length_eq_zero hkept
  have hids : d.pool.keptIds = [] := by rw [Pool.keptIds, hcached, List.map_nil]
  refine ⟨nofun, ⟨?_, ?_, ?_, rfl, rfl⟩, hresets⟩
  · show d.pool.arena.Holds ([] ++ d.pool.keptIds)
    rw [hids]
    refine ⟨List.nodup_nil, fun id => ?_, hused, fun c _ => ?_⟩
    · simp [Arena.size?, hfree id]
    · exact le_of_eq_of_le hused (Nat.zero_le c)
  · intro size id hid
    have hid : (size, id) ∈ d.pool.cached := hid
    rw [hcached] at hid
    cases hid
  · intro size
    show d.pool.countOf size ≤ _
    rw [Pool.countOf, hcached]
    exact Nat.zero_le _

end Orderly

/-- Whatever a benchmark was used for before, and wherever a run of it fails: when the run is over,
the device has no memory in use and keeps no blocks, and the benchmark has no graph. The device may
have any limit and fail in any call, except that it can be reset. The run gets to its end if there
is room for its durations. -/
theorem run_leaves_nothing {τ : Type} (clock : StateM τ Nat) (config : Config) (d : Device)
    (hfree : ∀ id, d.pool.arena.get? id = none) (hused : d.memoryUsed = 0)
    (hkept : d.cachedBlocks = 0) (hresets : ∀ n, d.faults .reset n = false)
    (earlier : List Stage) (x : Nat → Single) (iterations : Nat) (t : τ) :
    let r := ((benchmark x).run (StateT.lift clock) iterations
      (applyAll earlier (new config d)) t).1
    (iterations < Benchmark.roomBound → ∃ out, r.1 = some out) ∧
      ∀ out, r.1 = some out → r.2.machine.context.device.memoryUsed = 0 ∧
        r.2.machine.context.device.cachedBlocks = 0 ∧ r.2.data = none := by
  intro r
  have hbefore := (Orderly.new config hfree hused hkept hresets).applyAll earlier
  have hover : Over _ _ iterations r.1 r.2 := leads_run clock x iterations _ t hbefore
  refine ⟨fun hroom => ?_, fun out hout => ?_⟩
  · rcases hr : r.1 with _ | out
    · rw [hr] at hover
      exact absurd hroom (Nat.not_lt.mpr hover)
    · exact ⟨out, rfl⟩
  · rw [hout] at hover
    exact ⟨hover.used, hover.kept, hover.data⟩

/-- The second launch fails, in the middle of the timed runs. -/
theorem run_leaves_nothing_launch :
    let config := { Config.standard with m := 2, n := 1 }
    let d := { Device.cpu (some 20) 2 with faults := fun c n => c == Call.launch && n == 2 }
    let r := ((benchmark fun _ => Single.one).run (StateT.lift (pure 0 : StateM Unit Nat)) 3
      (applyAll [] (new config d)) ()).1
    r.1 = some (.error (.runtime (.launchFailure "benchmark.sgemv"
        (.transfer "injected launch fault 2")))) ∧
      r.2.machine.context.device.memoryUsed = 0 ∧ r.2.machine.context.device.cachedBlocks = 0 ∧
      r.2.data = none := by
  intro config d
  obtain ⟨hover, hleft⟩ := run_leaves_nothing (pure 0) config d (fun _ => rfl) rfl rfl
    (fun _ => rfl) [] (fun _ => Single.one) 3 ()
  obtain ⟨out, hout⟩ := hover (by decide)
  exact ⟨by decide +kernel, hleft out hout⟩

end Bench.Sgemv

end Offload
