import Offload.Proofs.LinearKernels
import Offload.Proofs.Plans

/-!
# Kernels and routines agree

A graph that copies arrays to a device, runs a kernel of linear algebra there and copies the result
back leaves in the host buffer, bit for bit, what the routine of the host leaves in its array.

* `Linear.sgemvPlan`, `Linear.sgemmPlan`, `Linear.saxpyPlan` — the graphs.
* `Linear.sgemv_of_feeds`, `Linear.sgemm_of_feeds`, `Linear.saxpy_of_feeds` — what the kernels
  produce from the buffers that were copied.
* `Linear.kernels_agree` — the three graphs do what the routines do, and no launch crashes.
-/

namespace Offload.Linear

open Step

variable {κ : KernelId → Kernel} {hosts : HostMemory} {arena : Arena} {given : List LaunchArg}
  {p : Plan} {always back : Bool} {name : String} {id : KernelId} {m n k : Nat}
  {a b c x y : HostId} {alpha : Single}

/-! ### Arrays in host memory -/

/-- The numbers in a host buffer. -/
def elements (m : HostMemory) (h : HostId) : Array Single :=
  (realType.valuesOf (m.get h).bytes (m.get h).len).toArray

theorem size_elements (m : HostMemory) (h : HostId) : (elements m h).size = (m.get h).len :=
  ElementType.length_valuesOf _ _ _

/-- Buffers of numbers. -/
structure Reals (m : HostMemory) (buffers : List HostId) : Prop where
  /-- they were made -/
  made : ∀ h ∈ buffers, m.Has h
  /-- their elements are numbers -/
  type : ∀ h ∈ buffers, (m.get h).type = realType

/-- Where a plan passes a buffer of numbers, the kernel is given as many numbers, and those of the
buffer if that is an input. -/
theorem holds_of_feeds (hf : p.Feeds hosts arena given) {i : Nat} {h : HostId}
    (hi : p.args[i]? = some (.buffer h)) (ht : (hosts.get h).type = realType) :
    ∃ id b vs, Kernel.Holds (t := .float32) arena given i id b vs ∧
      vs.length = (hosts.get h).len ∧ (h ∈ p.inputs → vs.toArray = elements hosts h) := by
  obtain ⟨id, b, vs, hholds, hlen, hvs⟩ := hf.buffer i h .float32 hi ht nofun
  exact ⟨id, b, vs, hholds, hlen, fun hh => congrArg List.toArray (hvs hh)⟩

/-- Different buffers are in different blocks. -/
theorem ne_of_feeds {i j : Nat} {h h' : HostId} {t t' : ScalarType} {id id' : BlockId}
    {b b' : Block} {vs : List t.Value} {vs' : List t'.Value} (hf : p.Feeds hosts arena given)
    (hi : p.args[i]? = some (.buffer h)) (hj : p.args[j]? = some (.buffer h')) (hne : h ≠ h')
    (hholds : Kernel.Holds arena given i id b vs)
    (hholds' : Kernel.Holds arena given j id' b' vs') :
    id ≠ id' := by
  rintro rfl
  refine hf.apart i j h h' hi hj hne ?_
  rw [hholds.blockAt, hholds'.blockAt]

/-! ### A matrix times a vector -/

/-- Multiply the matrix `a` by the vector `x`. -/
def sgemvPlan (always back : Bool) (name : String) (id : KernelId) (m n : Nat) (a x y : HostId) :
    Plan where
  always := always
  back := back
  inputs := [a, x]
  name := name
  kernel := sgemvKernel id
  args := [.scalar ⟨.int32, .ofNat m⟩, .scalar ⟨.int32, .ofNat n⟩, .buffer a, .buffer x, .buffer y]
  index := 4
  output := y

theorem suits_sgemv (hk : κ id = sgemvKernel id) (hr : Reals hosts [a, x, y]) :
    (sgemvPlan always back name id m n a x y).Suits κ hosts where
  known := hk
  valid := rfl
  made := hr.made
  inputs h hh := List.mem_append_left [y] hh
  args := .cons rfl (.cons rfl (.cons ⟨hr.type a (by simp), fun _ => by simp [sgemvPlan]⟩
    (.cons ⟨hr.type x (by simp), fun _ => by simp [sgemvPlan]⟩
      (.cons ⟨hr.type y (by simp), nofun⟩ .nil))))
  output := rfl
  writes i t access hi hw := by
    rcases i with _ | _ | _ | _ | _ | i <;> cases hi <;> first | rfl | cases hw

/-- The kernel produces what the routine computes from the buffers, whatever the result is written
over. -/
theorem sgemv_of_feeds {init r : Array Single} (hm : m < Nat.pow 2 31) (hn : n < Nat.pow 2 31)
    (hreals : Reals hosts [a, x, y]) (hay : a ≠ y) (hxy : x ≠ y)
    (hlena : m * n ≤ (hosts.get a).len) (hleny : (hosts.get y).len = m) (hinit : init.size = m)
    (hr : sgemv m n (elements hosts a) (elements hosts x) init = some r)
    (hf : (sgemvPlan always back name id m n a x y).Feeds hosts arena given) :
    (sgemvKernel id).Produces arena given 4 (realType.bytesOf r.toList) := by
  obtain ⟨ida, ba, as, ha, hlenas, has⟩ := holds_of_feeds hf (i := 2) rfl (hreals.type a (by simp))
  obtain ⟨idx, bx, xs, hx, -, hxs⟩ := holds_of_feeds hf (i := 3) rfl (hreals.type x (by simp))
  obtain ⟨idy, by', ys, hy, hlenys, -⟩ :=
    holds_of_feeds hf (i := 4) rfl (hreals.type y (by simp))
  obtain ⟨r', hr', hproduces⟩ := sgemv_produces id hm hn (hf.scalar 0 _ rfl)
    (hf.scalar 1 _ rfl) hf.ready ha hx hy (ne_of_feeds hf (i := 2) (j := 4) rfl rfl hay ha hy)
    (ne_of_feeds hf (i := 3) (j := 4) rfl rfl hxy hx hy) (hlenas ▸ hlena) (hlenys.trans hleny)
  have hsize : m * n ≤ (elements hosts a).size := by rwa [size_elements]
  rw [has (by simp [sgemvPlan]), hxs (by simp [sgemvPlan]),
    sgemv_eq hsize (hlenys.trans hleny)] at hr'
  rw [sgemv_eq hsize hinit, hr'] at hr
  exact Option.some.inj hr ▸ hproduces

/-! ### The product of two matrices -/

/-- Multiply the matrices `a` and `b`. -/
def sgemmPlan (always back : Bool) (name : String) (id : KernelId) (m n k : Nat) (a b c : HostId) :
    Plan where
  always := always
  back := back
  inputs := [a, b]
  name := name
  kernel := sgemmKernel id
  args := [.scalar ⟨.int32, .ofNat m⟩, .scalar ⟨.int32, .ofNat n⟩, .scalar ⟨.int32, .ofNat k⟩,
    .buffer a, .buffer b, .buffer c]
  index := 5
  output := c

theorem suits_sgemm (hk : κ id = sgemmKernel id) (hr : Reals hosts [a, b, c]) :
    (sgemmPlan always back name id m n k a b c).Suits κ hosts where
  known := hk
  valid := rfl
  made := hr.made
  inputs h hh := List.mem_append_left [c] hh
  args := .cons rfl (.cons rfl (.cons rfl
    (.cons ⟨hr.type a (by simp), fun _ => by simp [sgemmPlan]⟩
      (.cons ⟨hr.type b (by simp), fun _ => by simp [sgemmPlan]⟩
        (.cons ⟨hr.type c (by simp), nofun⟩ .nil)))))
  output := rfl
  writes i t access hi hw := by
    rcases i with _ | _ | _ | _ | _ | _ | i <;> cases hi <;> first | rfl | cases hw

/-- The kernel produces what the routine computes from the buffers, whatever the result is written
over. -/
theorem sgemm_of_feeds {init r : Array Single} (hm : m < Nat.pow 2 31) (hn : n < Nat.pow 2 31)
    (hk : k < Nat.pow 2 31) (hreals : Reals hosts [a, b, c]) (hac : a ≠ c) (hbc : b ≠ c)
    (hlena : m * k ≤ (hosts.get a).len) (hlenb : k * n ≤ (hosts.get b).len)
    (hlenc : (hosts.get c).len = m * n) (hinit : init.size = m * n)
    (hr : sgemm m n k (elements hosts a) (elements hosts b) init = some r)
    (hf : (sgemmPlan always back name id m n k a b c).Feeds hosts arena given) :
    (sgemmKernel id).Produces arena given 5 (realType.bytesOf r.toList) := by
  obtain ⟨ida, blocka, as, ha, hlenas, has⟩ :=
    holds_of_feeds hf (i := 3) rfl (hreals.type a (by simp))
  obtain ⟨idb, blockb, bs, hb, hlenbs, hbs⟩ :=
    holds_of_feeds hf (i := 4) rfl (hreals.type b (by simp))
  obtain ⟨idc, blockc, cs, hc, hlencs, -⟩ :=
    holds_of_feeds hf (i := 5) rfl (hreals.type c (by simp))
  obtain ⟨r', hr', hproduces⟩ := sgemm_produces id hm hn hk (hf.scalar 0 _ rfl)
    (hf.scalar 1 _ rfl) (hf.scalar 2 _ rfl) hf.ready ha hb hc
    (ne_of_feeds hf (i := 3) (j := 5) rfl rfl hac ha hc)
    (ne_of_feeds hf (i := 4) (j := 5) rfl rfl hbc hb hc) (hlenas ▸ hlena) (hlenbs ▸ hlenb)
    (hlencs.trans hlenc)
  have hsizea : m * k ≤ (elements hosts a).size := by rwa [size_elements]
  have hsizeb : k * n ≤ (elements hosts b).size := by rwa [size_elements]
  rw [has (by simp [sgemmPlan]), hbs (by simp [sgemmPlan]),
    sgemm_eq hsizea hsizeb (hlencs.trans hlenc)] at hr'
  rw [sgemm_eq hsizea hsizeb hinit, hr'] at hr
  exact Option.some.inj hr ▸ hproduces

/-! ### A multiple of a vector added to another -/

/-- Add `alpha` times the vector `x` to the vector `y`. -/
def saxpyPlan (always back : Bool) (name : String) (id : KernelId) (alpha : Single) (x y : HostId) :
    Plan where
  always := always
  back := back
  inputs := [x, y]
  name := name
  kernel := saxpyKernel id
  args := [.scalar ⟨.float32, alpha⟩, .buffer x, .buffer y]
  index := 2
  output := y

theorem suits_saxpy (hk : κ id = saxpyKernel id) (hr : Reals hosts [x, y]) :
    (saxpyPlan always back name id alpha x y).Suits κ hosts where
  known := hk
  valid := rfl
  made := hr.made
  inputs h hh := hh
  args := .cons rfl (.cons ⟨hr.type x (by simp), fun _ => by simp [saxpyPlan]⟩
    (.cons ⟨hr.type y (by simp), fun _ => by simp [saxpyPlan]⟩ .nil))
  output := rfl
  writes i t access hi hw := by
    rcases i with _ | _ | _ | i <;> cases hi <;> first | rfl | cases hw

/-- The kernel produces what the routine computes from the buffers. -/
theorem saxpy_of_feeds (hreals : Reals hosts [x, y]) (hxy : x ≠ y)
    (hlen : (hosts.get x).len ≤ (hosts.get y).len)
    (hf : (saxpyPlan always back name id alpha x y).Feeds hosts arena given) :
    (saxpyKernel id).Produces arena given 2
      (realType.bytesOf (saxpy alpha (elements hosts x) (elements hosts y)).toList) := by
  obtain ⟨idx, blockx, xs, hx, hlenxs, hxs⟩ :=
    holds_of_feeds hf (i := 1) rfl (hreals.type x (by simp))
  obtain ⟨idy, blocky, ys, hy, hlenys, hys⟩ :=
    holds_of_feeds hf (i := 2) rfl (hreals.type y (by simp))
  have hproduces := saxpy_produces id (hf.scalar 0 _ rfl) hf.ready hx hy
    (ne_of_feeds hf (i := 1) (j := 2) rfl rfl hxy hx hy) (by rwa [hlenxs, hlenys])
  rwa [hxs (by simp [saxpyPlan]), hys (by simp [saxpyPlan])] at hproduces

/-! ### Graphs and launches -/

/-- On `machine`, a graph of the plan can be built and run, and leaves in the host buffer just the
numbers of an array. -/
def Leaves (p : Plan) (machine : Machine) (graph : String) (r : Array Single) : Prop :=
  ∃ s s', p.build ⟨machine, .empty graph⟩ = (.ok (), s) ∧ Graph.execute s = (.ok 1, s') ∧
    (s'.machine.hosts.get p.output).bytes = realType.bytesOf r.toList

/-- Arguments of the right types never make a kernel crash, whatever the numbers are and however
short the buffers. -/
theorem launch_refuses {kernel : Kernel} {args : List LaunchArg} {d : Device} {e : DeviceError}
    (hkernel : kernel = sgemvKernel id ∨ kernel = saxpyKernel id ∨ kernel = sgemmKernel id)
    (hq : ∀ n, d.faults .launch n = false) (hcheck : kernel.checkArgs args = .ok ())
    (hready : Kernel.Ready d.pool.arena args) (he : (Device.launch kernel args d).1 = .error e) :
    Refuses kernel.name e := by
  refine Ends.of_error (Device.launch_tame hq hcheck hready (fun _ => refuses_of_grid) ?_) he
  intro g locks p hgrid hlocks hp
  rcases hkernel with rfl | rfl | rfl
  · exact sgemv_tame hcheck hready hlocks
  · exact saxpy_tame hcheck hready hlocks hgrid hp
  · exact sgemm_tame hcheck hready hlocks hgrid hp

/-- What the kernels of linear algebra do on a device is what the routines do on the host. A graph
that copies the inputs to a device of the host that does not fail, runs a kernel and copies the
result back leaves in the host buffer just the bits that the routine computes, provided that there
is memory for the buffers. And whatever numbers a kernel is given, and buffers of whatever lengths,
its launch gets done or ends with a launch error that is not about a crash. -/
theorem kernels_agree (κ : KernelId → Kernel) (machine : Machine) (id : KernelId)
    (name graph : String) (m n k : Nat) (hm : m < Nat.pow 2 31) (hn : n < Nat.pow 2 31)
    (hk : k < Nat.pow 2 31) :
    (∀ a x y, κ id = sgemvKernel id → Reals machine.hosts [a, x, y] →
      machine.Fit κ (machine.hosts.sizes [a, x, y]) → a ≠ y → x ≠ y →
      m * n ≤ (machine.hosts.get a).len → (machine.hosts.get y).len = m →
      ∃ r, sgemv m n (elements machine.hosts a) (elements machine.hosts x)
          (elements machine.hosts y) = some r ∧
        Leaves (sgemvPlan true true name id m n a x y) machine graph r) ∧
    (∀ a b c, κ id = sgemmKernel id → Reals machine.hosts [a, b, c] →
      machine.Fit κ (machine.hosts.sizes [a, b, c]) → a ≠ c → b ≠ c →
      m * k ≤ (machine.hosts.get a).len → k * n ≤ (machine.hosts.get b).len →
      (machine.hosts.get c).len = m * n →
      ∃ r, sgemm m n k (elements machine.hosts a) (elements machine.hosts b)
          (elements machine.hosts c) = some r ∧
        Leaves (sgemmPlan true true name id m n k a b c) machine graph r) ∧
    (∀ alpha x y, κ id = saxpyKernel id → Reals machine.hosts [x, y] →
      machine.Fit κ (machine.hosts.sizes [x, y]) → x ≠ y →
      (machine.hosts.get x).len ≤ (machine.hosts.get y).len →
      Leaves (saxpyPlan true true name id alpha x y) machine graph
        (saxpy alpha (elements machine.hosts x) (elements machine.hosts y))) ∧
    ∀ (d : Device) (kernel : Kernel) (args : List LaunchArg),
      kernel ∈ [sgemvKernel id, saxpyKernel id, sgemmKernel id] →
      (∀ n, d.faults .launch n = false) → kernel.checkArgs args = .ok () →
      Kernel.Ready d.pool.arena args → ∀ e, (Device.launch kernel args d).1 = .error e →
        Refuses kernel.name e := by
  refine ⟨?_, ?_, ?_, ?_⟩
  · intro a x y hκ hreals hfit hay hxy hlena hleny
    have hsizea : m * n ≤ (elements machine.hosts a).size := by rwa [size_elements]
    have hsizey : (elements machine.hosts y).size = m := by rwa [size_elements]
    refine ⟨_, sgemv_eq hsizea hsizey, Plan.run_ok (suits_sgemv hκ hreals) hfit rfl
      (fun _ _ hf => ?_) graph⟩
    exact sgemv_of_feeds hm hn hreals hay hxy hlena hleny hsizey (sgemv_eq hsizea hsizey) hf
  · intro a b c hκ hreals hfit hac hbc hlena hlenb hlenc
    have hsizea : m * k ≤ (elements machine.hosts a).size := by rwa [size_elements]
    have hsizeb : k * n ≤ (elements machine.hosts b).size := by rwa [size_elements]
    have hsizec : (elements machine.hosts c).size = m * n := by rwa [size_elements]
    refine ⟨_, sgemm_eq hsizea hsizeb hsizec, Plan.run_ok (suits_sgemm hκ hreals) hfit rfl
      (fun _ _ hf => ?_) graph⟩
    exact sgemm_of_feeds hm hn hk hreals hac hbc hlena hlenb hlenc hsizec
      (sgemm_eq hsizea hsizeb hsizec) hf
  · intro alpha x y hκ hreals hfit hxy hlen
    exact Plan.run_ok (suits_saxpy hκ hreals) hfit rfl
      (fun _ _ hf => saxpy_of_feeds hreals hxy hlen hf) graph
  · intro d kernel args hkernel hq hcheck hready e he
    have hkernel : kernel = sgemvKernel id ∨ kernel = saxpyKernel id ∨ kernel = sgemmKernel id := by
      simpa using hkernel
    exact launch_refuses hkernel hq hcheck hready he

/-- A matrix of two rows and one column, on a device that just has memory for all. A launch with
minus one rows is refused. -/
theorem kernels_agree_small :
    let hosts : HostMemory :=
      ⟨[.ofList realType [Single.one, Single.zero], .ofList realType [Single.one],
        .zeroed realType 2].toArray⟩
    let machine : Machine := ⟨hosts, .ofDevice (.cpu (some 20) 0)⟩
    let v := Allocation.mk realType 1 (some ⟨0⟩)
    let d := (Device.allocate realType 1 (.cpu none 0)).2
    let args : List LaunchArg :=
      [.scalar ⟨.int32, -1⟩, .scalar ⟨.int32, 1⟩, .buffer v, .buffer v, .buffer v]
    let e := DeviceError.launch "sgemv" (ExtentError.negative 0).message
    (∃ r, sgemv 2 1 (elements hosts ⟨0⟩) (elements hosts ⟨1⟩) (elements hosts ⟨2⟩) = some r ∧
      Leaves (sgemvPlan true true "t" ⟨0⟩ 2 1 ⟨0⟩ ⟨1⟩ ⟨2⟩) machine "g" r) ∧
    (∃ r, sgemm 2 1 1 (elements hosts ⟨0⟩) (elements hosts ⟨1⟩) (elements hosts ⟨2⟩) = some r ∧
      Leaves (sgemmPlan true true "t" ⟨0⟩ 2 1 1 ⟨0⟩ ⟨1⟩ ⟨2⟩) machine "g" r) ∧
    Leaves (saxpyPlan true true "t" ⟨0⟩ .one ⟨1⟩ ⟨2⟩) machine "g"
      (saxpy .one (elements hosts ⟨1⟩) (elements hosts ⟨2⟩)) ∧
    (Device.launch (sgemvKernel ⟨0⟩) args d).1 = .error e ∧ Refuses "sgemv" e := by
  intro hosts machine v d args e
  have hreals : Reals hosts [⟨0⟩, ⟨1⟩, ⟨2⟩] :=
    ⟨by simp [HostMemory.Has, hosts], by simp [HostMemory.get, hosts, HostBuffer.ofList,
      HostBuffer.zeroed]⟩
  have hreals' : Reals hosts [⟨1⟩, ⟨2⟩] :=
    ⟨fun h hh => hreals.made h (List.mem_cons_of_mem _ hh),
      fun h hh => hreals.type h (List.mem_cons_of_mem _ hh)⟩
  have hfit : ∀ κ, machine.Fit κ (hosts.sizes [⟨0⟩, ⟨1⟩, ⟨2⟩]) := fun κ =>
    Machine.fit_cpu (by rintro c ⟨⟩; decide)
  have hfit' : ∀ κ, machine.Fit κ (hosts.sizes [⟨1⟩, ⟨2⟩]) := fun κ =>
    Machine.fit_cpu (by rintro c ⟨⟩; decide)
  have hready : Kernel.Ready d.pool.arena args := by
    intro a ha
    obtain rfl : a = v := by simpa [args] using ha
    exact ⟨_, rfl, rfl⟩
  have he : (Device.launch (sgemvKernel ⟨0⟩) args d).1 = .error e := by decide +kernel
  refine ⟨?_, ?_, ?_, he, ?_⟩
  · exact (kernels_agree sgemvKernel machine ⟨0⟩ "t" "g" 2 1 1 (by decide) (by decide)
      (by decide)).1 ⟨0⟩ ⟨1⟩ ⟨2⟩ rfl hreals (hfit _) (by decide) (by decide) (by decide) rfl
  · exact (kernels_agree sgemmKernel machine ⟨0⟩ "t" "g" 2 1 1 (by decide) (by decide)
      (by decide)).2.1 ⟨0⟩ ⟨1⟩ ⟨2⟩ rfl hreals (hfit _) (by decide) (by decide) (by decide)
        (by decide) rfl
  · exact (kernels_agree saxpyKernel machine ⟨0⟩ "t" "g" 2 1 1 (by decide) (by decide)
      (by decide)).2.2.1 .one ⟨1⟩ ⟨2⟩ rfl hreals' (hfit' _) (by decide) (by decide)
  · exact (kernels_agree sgemvKernel machine ⟨0⟩ "t" "g" 2 1 1 (by decide) (by decide)
      (by decide)).2.2.2 d _ args List.mem_cons_self (fun _ => rfl) (by decide) hready e he

end Offload.Linear
