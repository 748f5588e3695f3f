import Offload.Linear.Kernel
import Offload.Proofs.LinearRoutines
import Offload.Proofs.Tameness

/-!
# The kernels of linear algebra

Every kernel leaves in device memory what the routine of the host leaves in an array, provided that
no buffer is too short. Where one is too short, or a size is negative, the launch ends with an error
that says so; no work item looks or stores beyond the end of a buffer.

* `Linear.sgemv_produces`, `Linear.sgemm_produces`, `Linear.saxpy_produces` — what device memory
  holds after a launch.
* `Linear.sgemv_tame`, `Linear.sgemm_tame`, `Linear.saxpy_tame` — no launch crashes.
-/

namespace Offload.Linear

open Step

variable {m n k : Nat} {args : List LaunchArg} {arena : Arena} {kernel : Kernel} {i : Nat}

/-! ### Views -/

/-- The numbers that a kernel sees. -/
def numbers (v : View realType) : Nat → Single := v.nth

/-- A kernel sees at a place what the list has there. -/
theorem numbers_eq {v : View realType} {vs : List Single} (h : v.toList = vs) (hi : i < v.len) :
    numbers v i = nth vs.toArray i := by
  have hsome : v.toList[i]? = some (v.nth i) := by
    rw [View.toList, List.getElem?_map, List.getElem?_range hi]
    rfl
  have hvs : vs[i]? = some (numbers v i) := by
    rw [← h]
    exact hsome
  have hlen : i < vs.length := (List.getElem?_eq_some_iff.mp hvs).1
  exact Option.some.inj (hvs.symm.trans (getElem?_toArray_eq_nth hlen))

/-- An element that is there is taken. -/
theorem element_eq {v : View realType} (h : i < v.len) (next : Single → Body) :
    Body.element v i next = next (numbers v i) := by
  simp only [Body.element, View.get?, if_pos h]
  rfl

/-- The sum of products goes from left to right. -/
theorem sumProducts_eq {a b : View realType} {j : Nat} (ha : i * k + k ≤ a.len)
    (hb : k * n ≤ b.len) (hj : j < n) (next : Single → Body) {rest l : Nat} (hl : l + rest = k)
    (acc : Single) :
    sumProducts a b i j k n next rest l acc =
      next (((List.range' l rest).map fun l => numbers a (i * k + l) * numbers b (l * n + j)).foldl
        (· + ·) acc) := by
  induction rest generalizing l acc with
  | zero => rfl
  | succ rest ih =>
    rw [sumProducts, element_eq (show i * k + l < a.len by omega),
      element_eq (place_lt (show l < k by omega) hj hb), ih (by omega)]
    rfl

/-! ### Sizes -/

/-- A number that is not too large stands for itself. -/
theorem toInt_ofNat (h : m < Nat.pow 2 31) : (Int32.ofNat m).toInt = m :=
  Int32.toInt_ofNat_of_lt h

theorem extent_ofNat (h : m < Nat.pow 2 31) : extent (.ofNat m) = m := by
  rw [extent, toInt_ofNat h, Int.toNat_natCast]

/-- The size that a number leads to. -/
theorem resolve_int32 {v : Int32} (h : args[i]? = some (.scalar ⟨.int32, v⟩)) :
    (Extent.scalar i).resolve args =
      if v.toInt < 0 then .error (.negative i) else .ok (extent v) := by
  have hint : Scalar.asInt? ⟨.int32, v⟩ = some v.toInt := rfl
  rw [Extent.resolve, h, extent]
  dsimp only
  rw [hint]
  rcases v.toInt with n | n
  · rfl
  · rw [if_pos (Int.negSucc_lt_zero n)]

theorem resolve_ofNat (h : args[i]? = some (.scalar ⟨.int32, .ofNat m⟩)) (hm : m < Nat.pow 2 31) :
    (Extent.scalar i).resolve args = .ok m := by
  rw [resolve_int32 h, toInt_ofNat hm, if_neg (by omega), extent_ofNat hm]

/-- A grid of one dimension. -/
theorem resolve_one (e : Extent) (args : List LaunchArg) :
    Space.resolve ⟨[e]⟩ args = (e.resolve args).map fun x => ⟨x, 1, 1⟩ := by
  have hdims : (Space.mk [e]).dims.take (Space.maxDims + 1) = [e] := rfl
  rw [Space.resolve, hdims]
  rcases h : e.resolve args with r | x <;> simp only [List.mapM_cons, List.mapM_nil, h] <;> rfl

/-- A grid of two dimensions. -/
theorem resolve_two (e e' : Extent) (args : List LaunchArg) :
    Space.resolve ⟨[e, e']⟩ args =
      (e.resolve args).bind fun x => (e'.resolve args).map fun y => ⟨x, y, 1⟩ := by
  have hdims : (Space.mk [e, e']).dims.take (Space.maxDims + 1) = [e, e'] := rfl
  rw [Space.resolve, hdims]
  rcases h : e.resolve args with r | x <;> rcases h' : e'.resolve args with r' | y <;>
    simp only [List.mapM_cons, List.mapM_nil, h, h'] <;> rfl

/-! ### Refusals -/

/-- A kernel refuses, and says why. It did not crash. -/
def Refuses (name : String) (e : DeviceError) : Prop :=
  ∃ reason, e = .launch name reason ∧ ∀ text, reason ≠ "kernel body panicked: " ++ text

/-- What begins with another letter is not said about a crash. -/
theorem refuses_of_head {name reason : String} {c : Char} (h : reason.toList.head? = some c)
    (hc : c ≠ 'k') : Refuses name (.launch name reason) := by
  refine ⟨reason, rfl, ?_⟩
  rintro text rfl
  have hk : ("kernel body panicked: " ++ text).toList.head? = some 'k' := by
    rw [String.toList_append]
    rfl
  exact hc (Option.some.inj (h.symm.trans hk))

/-- A kernel that gets no grid says so. -/
theorem refuses_of_grid {e : DeviceError} (h : kernel.grid args = .error e) :
    Refuses kernel.name e := by
  rw [Kernel.grid] at h
  rcases hr : kernel.space.resolve args with why | g <;> rw [hr] at h
  · cases h
    cases why with
    | tooManyDimensions => exact refuses_of_head (c := 't') rfl (by decide)
    | _ => exact refuses_of_head (c := 'a') (by simp [ExtentError.message]) (by decide)
  · cases h

/-! ### No crashes -/

section Tame

variable {id : KernelId} {g : Grid} {locks : LockTable} {p : Nat}

theorem sgemv_tame (hcheck : (sgemvKernel id).checkArgs args = .ok ())
    (hready : Kernel.Ready arena args) (hlocks : LockTable.Covers locks args) :
    ((sgemvKernel id).body (g.item p)).Tame
      ⟨"sgemv", (sgemvKernel id).params, args, locks⟩ (Refuses "sgemv") := by
  obtain ⟨cols, hcols⟩ := Kernel.scalar_of_checkArgs (i := 1) hcheck rfl
  obtain ⟨a, ida, -, ha⟩ := Kernel.buffer_of_checkArgs (i := 2) false hcheck hready hlocks rfl
    nofun
  obtain ⟨x, idx, -, hx⟩ := Kernel.buffer_of_checkArgs (i := 3) false hcheck hready hlocks rfl
    nofun
  obtain ⟨y, idy, -, hy⟩ := Kernel.buffer_of_checkArgs (i := 4) true hcheck hready hlocks rfl
    fun _ => rfl
  refine .scalar (Frame.scalar_eq hcols) (.view ha fun va hva => .view hx fun vx hvx => ?_)
  split
  · exact .fail (refuses_of_head (c := 'r') (by simp) (by decide))
  · refine .writable hy fun vy hvy => ?_
    rw [Body.orFail_ok]
    split
    · rename_i hp
      exact .store hy (hvy ▸ hp) .done
    · exact .fail (refuses_of_head (c := 'o') (by simp) (by decide))

theorem saxpy_tame (hcheck : (saxpyKernel id).checkArgs args = .ok ())
    (hready : Kernel.Ready arena args) (hlocks : LockTable.Covers locks args)
    (hgrid : (saxpyKernel id).grid args = .ok g) (hp : p < g.count) :
    ((saxpyKernel id).body (g.item p)).Tame
      ⟨"saxpy", (saxpyKernel id).params, args, locks⟩ (Refuses "saxpy") := by
  obtain ⟨alpha, halpha⟩ := Kernel.scalar_of_checkArgs (i := 0) hcheck rfl
  obtain ⟨x, idx, hargx, hx⟩ := Kernel.buffer_of_checkArgs (i := 1) false hcheck hready hlocks rfl
    nofun
  obtain ⟨y, idy, -, hy⟩ := Kernel.buffer_of_checkArgs (i := 2) true hcheck hready hlocks rfl
    fun _ => rfl
  -- there is a work item for each element of `x`
  have hsize : g.x = x.len := by
    rw [Kernel.grid, saxpyKernel, resolve_one, Extent.resolve, hargx] at hgrid
    obtain rfl : ⟨x.len, 1, 1⟩ = g := Except.ok.inj hgrid
    rfl
  have hplace : (g.item p).x < x.len := hsize ▸ (g.inGrid_item hp).1
  refine .scalar (Frame.scalar_eq halpha) (.view hx fun vx hvx => ?_)
  dsimp only [Body.orFail_ok]
  rw [element_eq (hvx ▸ hplace)]
  refine .writable hy fun vy hvy => ?_
  dsimp only [Body.orFail_ok]
  split
  · rename_i w hw
    rw [View.get?] at hw
    split at hw
    · rename_i hlt
      exact .store hy (hvy ▸ hlt) .done
    · cases hw
  · exact .fail (refuses_of_head (c := 'o') (by simp) (by decide))

theorem sgemm_tame (hcheck : (sgemmKernel id).checkArgs args = .ok ())
    (hready : Kernel.Ready arena args) (hlocks : LockTable.Covers locks args)
    (hgrid : (sgemmKernel id).grid args = .ok g) (hp : p < g.count) :
    ((sgemmKernel id).body (g.item p)).Tame
      ⟨"sgemm", (sgemmKernel id).params, args, locks⟩ (Refuses "sgemm") := by
  obtain ⟨rows, hrows⟩ := Kernel.scalar_of_checkArgs (i := 0) hcheck rfl
  obtain ⟨cols, hcols⟩ := Kernel.scalar_of_checkArgs (i := 1) hcheck rfl
  obtain ⟨inner, hinner⟩ := Kernel.scalar_of_checkArgs (i := 2) hcheck rfl
  obtain ⟨a, ida, -, ha⟩ := Kernel.buffer_of_checkArgs (i := 3) false hcheck hready hlocks rfl
    nofun
  obtain ⟨b, idb, -, hb⟩ := Kernel.buffer_of_checkArgs (i := 4) false hcheck hready hlocks rfl
    nofun
  obtain ⟨c, idc, -, hc⟩ := Kernel.buffer_of_checkArgs (i := 5) true hcheck hready hlocks rfl
    fun _ => rfl
  -- the first coordinate stays below the number of columns
  have hsize : g.x = extent cols := by
    rw [Kernel.grid, sgemmKernel, resolve_two, resolve_int32 hcols, resolve_int32 hrows] at hgrid
    split at hgrid
    · cases hgrid
    · split at hgrid
      · cases hgrid
      · obtain rfl : ⟨extent cols, extent rows, 1⟩ = g := Except.ok.inj hgrid
        rfl
  have hj : (g.item p).x < extent cols := hsize ▸ (g.inGrid_item hp).1
  refine .scalar (Frame.scalar_eq hcols) (.scalar (Frame.scalar_eq hinner)
    (.view ha fun va hva => .view hb fun vb hvb => ?_))
  dsimp only [Body.orFail_ok]
  split
  · exact .fail (refuses_of_head (c := 'a') (by simp) (by decide))
  · rename_i hlena
    split
    · exact .fail (refuses_of_head (c := 'b') (by simp) (by decide))
    · rename_i hlenb
      rw [sumProducts_eq (Nat.succ_mul _ _ ▸ Nat.le_of_not_lt hlena) (Nat.le_of_not_lt hlenb) hj _
        (Nat.zero_add _)]
      refine .writable hc fun vc hvc => ?_
      rw [Body.orFail_ok]
      split
      · rename_i hplace
        exact .store hc (hvc ▸ hplace) .done
      · exact .fail (refuses_of_head (c := 'o') (by simp) (by decide))

end Tame

/-! ### Results -/

section Results

variable (id : KernelId) {ida idb idc idx idy : BlockId}
  {blocka blockb blockc blockx blocky : Block} {f : Frame} {s : Execution}
  {as bs cs xs ys : List Single} {p : Nat}

/-- The points of a grid of one dimension. -/
theorem item_one (h : p < m) : (Grid.item ⟨m, 1, 1⟩ p).x = p := Nat.mod_eq_of_lt h

theorem count_one (m : Nat) : Grid.count ⟨m, 1, 1⟩ = m := by simp [Grid.count]

/-- Where a body ends by storing a number at a place that there is, it gets done. -/
theorem run_put {idv : BlockId} {b : Block} {len : Nat}
    (h : f.buffer i realType true = .ok (idv, len)) (hget : s.arena.get? idv = some b)
    (hroom : len * realType.bytes ≤ b.cells.size) (hp : p < len)
    (v : Single) (other : Body) :
    (Body.writable i realType (.orFail fun y =>
      if p < y.len then .store i realType p v (.orFail fun _ => .done) else other)).run f s =
      (.ok (), { s with
        arena := s.arena.modify idv (·.patch (p * realType.bytes) (realType.toBytes v)) }) := by
  refine (Body.run_writable h hget hroom).trans ?_
  dsimp only [Body.orFail_ok]
  rw [if_pos hp]
  exact (Body.run_store h hget hroom hp).trans rfl

/-- A kernel sees the numbers that a buffer holds. -/
theorem numbers_of_holds {index : Nat} {vs : List Single} {idv : BlockId} {b : Block}
    (h : Kernel.Holds (t := .float32) arena args index idv b vs) (hi : i < vs.length) :
    numbers ⟨b.cells, vs.length⟩ i = nth vs.toArray i := numbers_eq h.toList hi

/-- As long as another block changes only, a body is shown the numbers of the beginning. -/
theorem run_input {locks : LockTable} {access : Access} {index : Nat} {vs : List Single}
    {idv idw : BlockId} {b : Block} {next : View realType → Body}
    (h : Kernel.Holds (t := .float32) arena args index idv b vs)
    (hlocks : LockTable.Covers locks args)
    (hp : kernel.params[index]? = some (.buffer realType access))
    (hchanges : Arena.Changes (· = idw) arena s.arena) (hne : idv ≠ idw) :
    (Body.view index realType (.orFail next)).run ⟨kernel.name, kernel.params, args, locks⟩ s =
      (next ⟨b.cells, vs.length⟩).run ⟨kernel.name, kernel.params, args, locks⟩ s :=
  Body.run_view (h.buffer hlocks hp Bool.noConfusion) (h.get_of_changes hchanges hne) h.room

/-- The kernel leaves in its last buffer what the routine of the host leaves in its last array. -/
theorem sgemv_produces (hm : m < Nat.pow 2 31) (hn : n < Nat.pow 2 31)
    (hrows : args[0]? = some (.scalar ⟨.int32, .ofNat m⟩))
    (hcols : args[1]? = some (.scalar ⟨.int32, .ofNat n⟩)) (hready : Kernel.Ready arena args)
    (ha : Kernel.Holds (t := .float32) arena args 2 ida blocka as)
    (hx : Kernel.Holds (t := .float32) arena args 3 idx blockx xs)
    (hy : Kernel.Holds (t := .float32) arena args 4 idy blocky ys) (hay : ida ≠ idy)
    (hxy : idx ≠ idy) (hlena : m * n ≤ as.length) (hleny : ys.length = m) :
    ∃ r, sgemv m n as.toArray xs.toArray ys.toArray = some r ∧
      (sgemvKernel id).Produces arena args 4 (realType.bytesOf r.toList) := by
  refine ⟨_, sgemv_eq (by simpa using hlena) (by simpa using hleny), ?_⟩
  have hgrid : (sgemvKernel id).grid args = .ok ⟨m, 1, 1⟩ := by
    rw [Kernel.grid, sgemvKernel, resolve_one, resolve_ofNat hrows hm]
    rfl
  refine Kernel.produces_range_of_fills (t := .float32) (rowProduct n (nth as.toArray) xs)
    ScalarType.noConfusion hready hgrid hy (count_one m) hleny ?_
  intro locks hlocks p hp s b hchanges hget _
  have hrow := row_le hp hlena
  have hslice : View.slice? (⟨blocka.cells, as.length⟩ : View realType) (p * n) n =
      some ((List.range n).map fun j => nth as.toArray (p * n + j)) := by
    rw [View.slice?, if_pos hrow]
    refine congrArg some (List.map_congr_left fun j hj => numbers_of_holds ha ?_)
    have hlt := List.mem_range.mp hj
    omega
  have hxs : (⟨blockx.cells, xs.length⟩ : View realType).toList = xs := hx.toList
  refine (Body.run_scalar (t := intType) (Frame.scalar_eq hcols)).trans ?_
  refine (run_input ha hlocks rfl hchanges hay).trans ?_
  refine (run_input hx hlocks rfl hchanges hxy).trans ?_
  rw [item_one hp, extent_ofNat hn, hslice, hxs]
  exact run_put (hy.buffer hlocks rfl fun _ => rfl) hget (hy.room_of_changes hchanges hget)
    (hleny.symm ▸ hp) _ _

/-- The rows of the matrix of the host run along the first coordinate of the grid. -/
theorem sgemm_produces (hm : m < Nat.pow 2 31) (hn : n < Nat.pow 2 31) (hk : k < Nat.pow 2 31)
    (hrows : args[0]? = some (.scalar ⟨.int32, .ofNat m⟩))
    (hcols : args[1]? = some (.scalar ⟨.int32, .ofNat n⟩))
    (hinner : args[2]? = some (.scalar ⟨.int32, .ofNat k⟩)) (hready : Kernel.Ready arena args)
    (ha : Kernel.Holds (t := .float32) arena args 3 ida blocka as)
    (hb : Kernel.Holds (t := .float32) arena args 4 idb blockb bs)
    (hc : Kernel.Holds (t := .float32) arena args 5 idc blockc cs) (hac : ida ≠ idc)
    (hbc : idb ≠ idc) (hlena : m * k ≤ as.length) (hlenb : k * n ≤ bs.length)
    (hlenc : cs.length = m * n) :
    ∃ r, sgemm m n k as.toArray bs.toArray cs.toArray = some r ∧
      (sgemmKernel id).Produces arena args 5 (realType.bytesOf r.toList) := by
  refine ⟨_, sgemm_eq (by simpa using hlena) (by simpa using hlenb) (by simpa using hlenc), ?_⟩
  have hgrid : (sgemmKernel id).grid args = .ok ⟨n, m, 1⟩ := by
    rw [Kernel.grid, sgemmKernel, resolve_two, resolve_ofNat hcols hn, resolve_ofNat hrows hm]
    rfl
  have hcount : Grid.count ⟨n, m, 1⟩ = m * n := by
    show n * m * 1 = m * n
    rw [Nat.mul_one, Nat.mul_comm]
  refine Kernel.produces_range_of_fills (t := .float32)
    (fun p => entry k n (nth as.toArray) (nth bs.toArray) (p / n) (p % n))
    ScalarType.noConfusion hready hgrid hc hcount hlenc ?_
  intro locks hlocks p hp s b hchanges hget _
  have hpos : 0 < n := Nat.pos_of_ne_zero fun h => by simp [h] at hp
  have hi : p / n < m := Nat.div_lt_of_lt_mul (Nat.mul_comm m n ▸ hp)
  have hj : p % n < n := Nat.mod_lt p hpos
  have hx : (Grid.item ⟨n, m, 1⟩ p).x = p % n := rfl
  have hy : (Grid.item ⟨n, m, 1⟩ p).y = p / n := Nat.mod_eq_of_lt hi
  have hplace : p / n * n + p % n = p := by rw [Nat.mul_comm, Nat.div_add_mod]
  have hrow := row_le hi hlena
  have hsum : ((List.range' 0 k).map fun l =>
      numbers ⟨blocka.cells, as.length⟩ (p / n * k + l) *
        numbers ⟨blockb.cells, bs.length⟩ (l * n + p % n)).foldl (· + ·) Single.negZero =
      entry k n (nth as.toArray) (nth bs.toArray) (p / n) (p % n) := by
    rw [← List.range_eq_range']
    refine congrArg Single.sum (List.map_congr_left fun l hl => ?_)
    have hlt := List.mem_range.mp hl
    have hla : p / n * k + l < as.length := by omega
    rw [numbers_of_holds ha hla, numbers_of_holds hb (place_lt hlt hj hlenb)]
  refine (Body.run_scalar (t := intType) (Frame.scalar_eq hcols)).trans ?_
  refine (Body.run_scalar (t := intType) (Frame.scalar_eq hinner)).trans ?_
  refine (run_input ha hlocks rfl hchanges hac).trans ?_
  refine (run_input hb hlocks rfl hchanges hbc).trans ?_
  dsimp only
  rw [hy, extent_ofNat hn, extent_ofNat hk, if_neg (Nat.not_lt.mpr (Nat.succ_mul _ _ ▸ hrow)),
    if_neg (Nat.not_lt.mpr hlenb), hx,
    sumProducts_eq (a := ⟨blocka.cells, as.length⟩) hrow hlenb hj _ (Nat.zero_add k), hsum,
    hplace]
  exact run_put (hc.buffer hlocks rfl fun _ => rfl) hget (hc.room_of_changes hchanges hget)
    (hlenc.symm ▸ hp) _ _

/-- The vector that is added may be shorter; what is beyond its end stays as it is. -/
theorem saxpy_produces {alpha : Single}
    (halpha : args[0]? = some (.scalar ⟨.float32, alpha⟩)) (hready : Kernel.Ready arena args)
    (hx : Kernel.Holds (t := .float32) arena args 1 idx blockx xs)
    (hy : Kernel.Holds (t := .float32) arena args 2 idy blocky ys) (hxy : idx ≠ idy)
    (hlen : xs.length ≤ ys.length) :
    (saxpyKernel id).Produces arena args 2
      (realType.bytesOf (saxpy alpha xs.toArray ys.toArray).toList) := by
  rw [saxpy_eq]
  have hgrid : (saxpyKernel id).grid args = .ok ⟨xs.length, 1, 1⟩ := by
    obtain ⟨a, ha, -, hlena⟩ := hx.arg
    rw [Kernel.grid, saxpyKernel, resolve_one, Extent.resolve, ha]
    dsimp only
    rw [hlena]
    rfl
  refine Kernel.produces_of_fills (t := .float32)
    (added alpha xs.length (nth xs.toArray) (nth ys.toArray)) ScalarType.noConfusion hready hgrid hy
    (by rw [count_one]; exact hlen) ?_ (by simp) ?_ ?_
  · intro locks hlocks p hp s b hchanges hget hsame
    rw [count_one] at hp
    have hpy : p < ys.length := Nat.lt_of_lt_of_le hp hlen
    -- the element of `y` is still the one of the beginning
    have hold : View.get? (⟨b.cells, ys.length⟩ : View realType) p = some (nth ys.toArray p) := by
      have hnth : ys[p]? = some (nth ys.toArray p) := getElem?_toArray_eq_nth hpy
      rw [View.get?, if_pos hpy]
      exact congrArg some (hsame.trans (hy.element hnth))
    have hvalue : added alpha xs.length (nth xs.toArray) (nth ys.toArray) p =
        nth ys.toArray p + alpha * nth xs.toArray p := if_pos hp
    have hwrite := hy.buffer (k := saxpyKernel id) hlocks rfl fun (_ : true = true) => rfl
    have hroom := hy.room_of_changes hchanges hget
    refine (Body.run_scalar (t := realType) (Frame.scalar_eq halpha)).trans ?_
    refine (run_input hx hlocks rfl hchanges hxy).trans ?_
    rw [item_one hp, element_eq hp, numbers_of_holds hx hp]
    refine (Body.run_writable (t := realType) hwrite hget hroom).trans ?_
    dsimp only [Body.orFail_ok]
    rw [hold, hvalue]
    exact (Body.run_store (t := realType) hwrite hget hroom hpy).trans rfl
  · intro q hq
    rw [count_one] at hq
    simp [Nat.lt_of_lt_of_le hq hlen]
  · intro q hq
    rw [count_one] at hq
    rcases hv : ys[q]? with _ | v
    · exact List.getElem?_eq_none (by simpa using List.getElem?_eq_none_iff.mp hv)
    · have hqy : q < ys.length := (List.getElem?_eq_some_iff.mp hv).1
      have hnth : nth ys.toArray q = v :=
        Option.some.inj ((getElem?_toArray_eq_nth hqy).symm.trans hv)
      simp [hqy, added, Nat.not_lt.mpr hq, hnth]

end Results

end Offload.Linear
