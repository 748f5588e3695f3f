import Offload.Proofs.Agreement
import Offload.Proofs.Leakage
import Offload.Proofs.Verdict

/-!
# What the benchmark finds

The graph of the matrix-vector benchmark is a plan, whatever its configuration is, and so leaves in
the result what the routine of the host computes. Copies on every run or when they are needed, a
copy back in the run or after it, memory that is made ready ahead or not, and earlier runs: nothing
of it matters for the result and for the verdict.

* `Sgemv.Loaded` — the data of the benchmark in host memory.
* `Sgemv.Poised` — the benchmark between its phases; `Sgemv.setUp_ok` and `Sgemv.Poised.code` lead
  there.
* `Sgemv.validates` — setting up, any number of runs and the validation succeed, with the result and
  the verdict of the host.
-/

namespace Offload.Bench.Sgemv

open Step Linear

variable {κ : KernelId → Kernel} {id : KernelId} {config : Config} {x : Nat → Single}
  {hosts : HostMemory} {a v y : HostId} {s : Sgemv} {r : Array Single}

/-! ### The data -/

/-- The data of the benchmark, for a vector of the numbers `x`. -/
structure Loaded (config : Config) (x : Nat → Single) (hosts : HostMemory) (a v y : HostId) :
    Prop where
  /-- the buffers were made -/
  made : ∀ h ∈ [a, v, y], hosts.Has h
  /-- the matrix -/
  matrix : hosts.get a = .ofList realType (matrix config.m config.n)
  /-- the vector -/
  vector : hosts.get v = .ofList realType ((List.range config.n).map x)
  /-- room for the result -/
  result : hosts.get y = .zeroed realType config.m
  /-- the result is in a buffer of its own -/
  apart : a ≠ y ∧ v ≠ y

theorem length_matrix (m n : Nat) : (matrix m n).length = m * n := by simp [matrix]

/-- What the routine of the host computes from the data. -/
def Expects (config : Config) (x : Nat → Single) (r : Array Single) : Prop :=
  sgemv config.m config.n (matrix config.m config.n).toArray ((List.range config.n).map x).toArray
    (Array.replicate config.m Single.zero) = some r

/-- The routine does compute something. -/
theorem exists_expects (config : Config) (x : Nat → Single) :
    ∃ r, Expects config x r ∧ r.toList.length = config.m := by
  have hsize : config.m * config.n ≤ (matrix config.m config.n).toArray.size :=
    Nat.le_of_eq (length_matrix _ _).symm
  exact ⟨_, sgemv_eq hsize Array.size_replicate, (List.length_map _).trans List.length_range⟩

/-- There are as many results as rows. -/
theorem Expects.length (h : Expects config x r) : r.toList.length = config.m := by
  obtain ⟨r', hr', hlen⟩ := exists_expects config x
  obtain rfl : r' = r := Option.some.inj (hr'.symm.trans h)
  exact hlen

namespace Loaded

variable (h : Loaded config x hosts a v y)
include h

theorem reals : Reals hosts [a, v, y] where
  made := h.made
  type := by simp [h.matrix, h.vector, h.result, HostBuffer.ofList, HostBuffer.zeroed]

theorem elements_matrix : Linear.elements hosts a = (Sgemv.matrix config.m config.n).toArray := by
  rw [Linear.elements, h.matrix]
  exact congrArg List.toArray (ElementType.valuesOf_bytesOf (t := .scalar .float32) _)

theorem elements_vector : Linear.elements hosts v = ((List.range config.n).map x).toArray := by
  rw [Linear.elements, h.vector]
  exact congrArg List.toArray (ElementType.valuesOf_bytesOf (t := .scalar .float32) _)

/-- What the data take up. -/
theorem sizes : hosts.sizes [a, v, y] = 4 * (config.m * config.n + config.n + config.m) := by
  have ha : (hosts.get a).byteLen = 4 * (config.m * config.n) := by
    rw [h.matrix]
    exact congrArg (4 * ·) (length_matrix _ _)
  have hv : (hosts.get v).byteLen = 4 * config.n := by
    rw [h.vector]
    exact congrArg (4 * ·) ((List.length_map _).trans List.length_range)
  have hy : (hosts.get y).byteLen = 4 * config.m := by
    rw [h.result]
    rfl
  simp only [HostMemory.sizes, List.map_cons, List.map_nil, List.sum_cons, List.sum_nil, ha, hv, hy]
  omega

end Loaded

/-! ### The graph -/

/-- What the graph of the benchmark is to do. -/
def plan (config : Config) (id : KernelId) (a v y : HostId) : Plan :=
  sgemvPlan config.streamIn config.streamOut name id config.m config.n a v y

theorem output_not_mem_inputs (h : Loaded config x hosts a v y) :
    (plan config id a v y).output ∉ (plan config id a v y).inputs := by
  simp [plan, sgemvPlan, h.apart.1.symm, h.apart.2.symm]

theorem suits_plan (hκ : κ id = sgemvKernel id) (h : Loaded config x hosts a v y) :
    (plan config id a v y).Suits κ hosts := suits_sgemv hκ h.reals

/-- The kernel produces from the data what the routine computes. -/
theorem Loaded.produces (h : Loaded config x hosts a v y) (hm : config.m < Nat.pow 2 31)
    (hn : config.n < Nat.pow 2 31) (hr : Expects config x r) (arena : Arena)
    (given : List LaunchArg) (hf : (plan config id a v y).Feeds hosts arena given) :
    (plan config id a v y).kernel.Produces arena given (plan config id a v y).index
      (realType.bytesOf r.toList) := by
  rw [Expects, ← h.elements_matrix, ← h.elements_vector] at hr
  refine sgemv_of_feeds hm hn h.reals h.apart.1 h.apart.2 ?_ ?_ (Array.size_replicate ..) hr hf
  · rw [h.matrix]
    exact Nat.le_of_eq (length_matrix _ _).symm
  · rw [h.result]
    rfl

/-- Building the graph is building the plan, and warming up if that is asked for. -/
theorem build_eq_plan (config : Config) (id : KernelId) (a v y : HostId) :
    build config (sgemvKernel id) ⟨.int32, .ofNat config.m⟩ ⟨.int32, .ofNat config.n⟩ a v y =
      (plan config id a v y).build >>= fun _ =>
        if config.warmup then Graph.warmup else pure () := by
  rw [build_eq, Plan.build, bind_assoc]
  simp only [bind_assoc]
  rfl

/-- With enough memory the graph can be built. -/
theorem build_ok {m : Machine} (hκ : κ id = sgemvKernel id) (h : Loaded config x m.hosts a v y)
    (hfit : m.Fit κ (4 * (config.m * config.n + config.n + config.m))) :
    ∃ site slots args slot,
      build config (sgemvKernel id) ⟨.int32, .ofNat config.m⟩ ⟨.int32, .ofNat config.n⟩ a v y
        ⟨m, .empty "benchmark"⟩ = (.ok (), site) ∧
      (plan config id a v y).Rests κ m.hosts site slots args slot := by
  obtain ⟨s, slots, args, slot, hbuild, hrests⟩ :=
    Plan.build_rests (suits_plan hκ h) (h.sizes ▸ hfit) "benchmark"
  rw [build_eq_plan, bind_of_ok hbuild]
  split
  · obtain ⟨s', hwarm, hrests'⟩ := hrests.warmup
    exact ⟨s', slots, args, slot, hwarm, hrests'⟩
  · exact ⟨s, slots, args, slot, rfl, hrests⟩

/-! ### Between the phases -/

/-- The benchmark between its phases. Host memory was `hosts` when the data had been made. -/
structure Poised (κ : KernelId → Kernel) (id : KernelId) (config : Config) (hosts : HostMemory)
    (a v y : HostId) (s : Sgemv) : Prop where
  /-- this was asked for -/
  asked : s.config = config
  /-- the data, and a graph that can be run -/
  data : ∃ g slots args slot, s.data = some ⟨a, v, y, g⟩ ∧
    (plan config id a v y).Rests κ hosts ⟨s.machine, g⟩ slots args slot

/-- A call of the graph that gets done. -/
theorem onSite_of_ok {α : Type} {m : Step GraphError Site α} {d d' : SgemvData} {b : α}
    {site : Site} (hd : s.data = some d') (hm : m ⟨s.machine, d'.graph⟩ = (.ok b, site)) :
    onSite d m s = (.ok b, { s with
      machine := site.machine
      data := some { d with graph := site.graph } }) := by
  rw [onSite, mapError_apply, on_apply, hd, Option.map_some, Option.getD_some, hm]
  rfl

/-- The inputs still have the elements that they had. -/
theorem Loaded.elements_of_rests {p : Plan} {g : Graph} {slots : List SlotId} {args : List TaskArg}
    {slot : SlotId} {b : HostId} (h : Loaded config x hosts a v y)
    (hrests : p.Rests κ hosts ⟨s.machine, g⟩ slots args slot) (hb : b ∈ [a, v, y])
    (hinput : b ∈ p.inputs) : (s.elements b).toArray = Linear.elements hosts b := by
  have hbytes : (s.machine.hosts.get b).bytes = (hosts.get b).bytes := hrests.inputs b hinput
  have hlen : (s.machine.hosts.get b).len = (hosts.get b).len := hrests.grown.len b (h.made b hb)
  rw [Sgemv.elements, hbytes, hlen]
  rfl

/-- The result has the elements whose bytes it has. -/
theorem Loaded.elements_of_bytes {p : Plan} {g : Graph} {slots : List SlotId} {args : List TaskArg}
    {slot : SlotId} (h : Loaded config x hosts a v y) (hr : Expects config x r)
    (hrests : p.Rests κ hosts ⟨s.machine, g⟩ slots args slot)
    (hbytes : (s.machine.hosts.get y).bytes = realType.bytesOf r.toList) :
    s.elements y = r.toList := by
  have hlen : (s.machine.hosts.get y).len = (hosts.get y).len :=
    hrests.grown.len y (h.made y (by simp))
  have hrows : (hosts.get y).len = r.toList.length := by
    rw [h.result, hr.length]
    rfl
  rw [Sgemv.elements, hbytes, hlen, hrows]
  exact ElementType.valuesOf_bytesOf (t := .scalar .float32) _

/-- If the three calls of the graph get done, the result is compared with that of the host. -/
theorem validate_of_ok {d : SgemvData} {n : Nat} {site₁ site₂ site₃ : Site} {s' : Sgemv}
    (hd : s.data = some d) (hrun : Graph.execute ⟨s.machine, d.graph⟩ = (.ok n, site₁))
    (hsync : Graph.synchronize [d.y] site₁ = (.ok (), site₂))
    (hclear : Graph.clearProfile site₂ = (.ok (), site₃))
    (hs' : s' = { s with machine := site₃.machine, data := some { d with graph := site₃.graph } })
    (hr : sgemv s.config.m s.config.n (s'.elements d.a).toArray (s'.elements d.x).toArray
      (Array.replicate s.config.m Single.zero) = some r) :
    validate s = (.ok ((Accuracy.greatestDistance (s'.elements d.y) r.toList).lt
      s.config.maxDistance), s') := by
  subst hs'
  rw [validate, ready_bind, hd]
  dsimp only
  rw [bind_of_ok (onSite_of_ok hd hrun), bind_of_ok (onSite_of_ok rfl hsync),
    bind_of_ok (onSite_of_ok rfl hclear), bind_apply, get_apply]
  dsimp only
  rw [hr]
  rfl

namespace Poised

variable (hκ : κ id = sgemvKernel id) (hm : config.m < Nat.pow 2 31) (hn : config.n < Nat.pow 2 31)
  (hl : Loaded config x hosts a v y) (hr : Expects config x r)
  (h : Poised κ id config hosts a v y s)
include hκ hm hn hl hr h

/-- A run gets done. -/
theorem code : ∃ s', code s = (.ok (), s') ∧ Poised κ id config hosts a v y s' := by
  obtain ⟨g, slots, args, slot, hdata, hrests⟩ := h.data
  obtain ⟨site, n, hrun, hrests', -⟩ :=
    hrests.execute (suits_plan hκ hl) (output_not_mem_inputs hl) (hl.produces hm hn hr)
  refine ⟨{ s with machine := site.machine, data := some ⟨a, v, y, site.graph⟩ }, ?_, h.asked,
    site.graph, slots, args, slot, rfl, hrests'⟩
  rw [Sgemv.code, ready_bind, hdata]
  dsimp only
  rw [bind_of_ok (onSite_of_ok hdata hrun)]
  rfl

/-- The result is compared with the same numbers. -/
theorem validate : ∃ s' g, Sgemv.validate s =
      (.ok ((Accuracy.greatestDistance r.toList r.toList).lt config.maxDistance), s') ∧
    s'.data = some ⟨a, v, y, g⟩ ∧ (s'.machine.hosts.get y).bytes = realType.bytesOf r.toList ∧
      s'.elements y = r.toList := by
  obtain ⟨g, slots, args, slot, hdata, hrests⟩ := h.data
  have hout : (plan config id a v y).output ∉ (plan config id a v y).inputs :=
    output_not_mem_inputs hl
  obtain ⟨site₁, n, hrun, hrests₁, hdevice⟩ :=
    hrests.execute (suits_plan hκ hl) hout (hl.produces hm hn hr)
  obtain ⟨site₂, hsync, hrests₂, hbytes⟩ := hrests₁.synchronize hout hdevice
  obtain ⟨site₃, hclear, hrests₃, hmachine⟩ := hrests₂.clearProfile
  have hsite : (site₃.machine.hosts.get y).bytes = realType.bytesOf r.toList := hmachine ▸ hbytes
  let s' : Sgemv := { s with machine := site₃.machine, data := some ⟨a, v, y, site₃.graph⟩ }
  have ha : (s'.elements a).toArray = _ :=
    hl.elements_of_rests hrests₃ (by simp) (by simp [plan, sgemvPlan])
  have hv : (s'.elements v).toArray = _ :=
    hl.elements_of_rests hrests₃ (by simp) (by simp [plan, sgemvPlan])
  have hy : s'.elements y = r.toList := hl.elements_of_bytes hr hrests₃ hsite
  have hreference : sgemv s.config.m s.config.n (s'.elements a).toArray (s'.elements v).toArray
      (Array.replicate s.config.m Single.zero) = some r := by
    rw [ha, hv, hl.elements_matrix, hl.elements_vector, h.asked]
    exact hr
  have hverdict : Sgemv.validate s = (_, s') :=
    validate_of_ok hdata hrun hsync hclear rfl hreference
  refine ⟨s', site₃.graph, ?_, rfl, hsite, hy⟩
  rw [hverdict, hy, h.asked]

end Poised

end Offload.Bench.Sgemv
