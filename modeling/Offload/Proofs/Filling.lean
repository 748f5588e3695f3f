import Offload.Proofs.Elements
import Offload.Proofs.Launching

/-!
# Bodies at work

What the body of a kernel does is worked out access by access. From that follows what becomes of a
whole grid where every work item stores one element at the place of its number: the grid fills the
first places of a buffer.

* `Body.run_scalar`, `Body.run_view`, `Body.run_writable`, `Body.run_store` — single accesses.
* `Kernel.runItems_of_fills`, `Kernel.execute_of_fills` — a grid that fills a buffer.
* `Kernel.produces_of_fills`, `Kernel.produces_range_of_fills` — what the buffer holds in the end.
-/

namespace Offload

namespace Block

variable {t : ScalarType} {b : Block}

/-- The element at an index. -/
def element (t : ElementType) (b : Block) (i : Nat) : t.Value := t.valueAt b.cells (i * t.bytes)

/-- An element of the content of a block. -/
theorem valueAt_content (t : ElementType) (b : Block) {i : Nat} (h : (i + 1) * t.bytes ≤ b.size) :
    t.valueAt b.content (i * t.bytes) = b.element t i :=
  t.valueAt_extract b.cells (by rwa [Nat.succ_mul] at h)

/-- The elements determine the content. -/
theorem content_eq {vs : List t.Value} (ht : t ≠ .bool) (hsize : b.size = t.bytes * vs.length)
    (h : ∀ (i : Nat) v, vs[i]? = some v → b.element (.scalar t) i = v) :
    b.content = (ElementType.scalar t).bytesOf vs := by
  refine ElementType.eq_of_valueAt (n := vs.length) ht ?_ ?_ fun i hi => ?_
  · rw [Block.size_content, hsize]
  · rw [ElementType.size_bytesOf]
    rfl
  · have hv := List.getElem?_eq_getElem hi
    have hroom : (i + 1) * t.bytes ≤ b.size := by
      rw [hsize, Nat.mul_comm]
      exact Nat.mul_le_mul_left _ hi
    refine Eq.trans ?_ (ElementType.valueAt_bytesOf (t := .scalar t) hv).symm
    rw [← h i _ hv]
    exact valueAt_content (.scalar t) b hroom

/-- An element that was stored is found at its place. -/
theorem element_patch_self {i : Nat} (v : t.Value) (h : (i + 1) * t.bytes ≤ b.cells.size) :
    (b.patch (i * t.bytes) ((ElementType.scalar t).toBytes v)).element (.scalar t) i = v :=
  ElementType.valueAt_overwrite_self (t := .scalar t) v (by rwa [Nat.succ_mul] at h)

/-- The elements at other places stay as they are. -/
theorem element_patch_ne (t : ElementType) (b : Block) {i j : Nat} (v : t.Value) (h : j ≠ i) :
    (b.patch (i * t.bytes) (t.toBytes v)).element t j = b.element t j := by
  refine t.valueAt_overwrite_of_disjoint b.cells (t.toBytes v) ?_
  rw [ElementType.length_toBytes, ← Nat.succ_mul, ← Nat.succ_mul]
  rcases Nat.lt_or_gt_of_ne h with hlt | hgt
  · exact .inl (Nat.mul_le_mul_right _ hlt)
  · exact .inr (Nat.mul_le_mul_right _ hgt)

end Block

/-- A block that is still there has its size. -/
theorem Arena.Changes.cells_size {W : BlockId → Prop} {m m' : Arena} {id : BlockId} {b b' : Block}
    (h : Changes W m m') (hb : m.get? id = some b) (hb' : m'.get? id = some b') :
    b'.size = b.size ∧ b'.cells.size = b.cells.size := by
  obtain ⟨b'', hb'', hsize⟩ := h.get?_some hb
  obtain rfl : b'' = b' := Option.some.inj (hb''.symm.trans hb')
  exact ⟨hsize, by rw [b''.aligned, b.aligned, hsize]⟩

/-! ### Frames -/

namespace Frame

variable {f : Frame} {m m' : Arena} {i len : Nat} {t : ElementType} {write : Bool} {id : BlockId}

/-- A buffer that was passed for its parameter is found. -/
theorem buffer_eq {access : Access} {a : Allocation} (hp : f.params[i]? = some (.buffer t access))
    (ha : f.args[i]? = some (.buffer a)) (hl : f.locks.block? i = some id)
    (hw : write = true → access.writes = true) : f.buffer i t write = .ok (id, a.len) := by
  rw [buffer, hp, ha, hl]
  dsimp only
  rw [if_neg (not_not_intro rfl), if_neg]
  cases write
  · nofun
  · simp [hw rfl]

/-- A buffer that is found was passed, and has its length. -/
theorem arg_of_buffer (h : f.buffer i t write = .ok (id, len)) :
    ∃ a, f.args[i]? = some (.buffer a) ∧ len = a.len := by
  unfold buffer at h
  split at h
  · rename_i a _ _ ha _
    split at h
    · cases h
    · split at h
      · cases h
      · exact ⟨a, ha, (Prod.mk.inj (Except.ok.inj h)).2.symm⟩
  · cases h

/-- A scalar that was passed is found. -/
theorem scalar_eq {t : ScalarType} {v : t.Value} (h : f.args[i]? = some (.scalar ⟨t, v⟩)) :
    f.scalar i (.scalar t) = .ok v := by
  simp [Frame.scalar, h, Scalar.get?]

/-- Behind every buffer there is memory for its elements. -/
def Fits (f : Frame) (m : Arena) : Prop :=
  ∀ i t write id len, f.buffer i t write = .ok (id, len) →
    ∃ b, m.get? id = some b ∧ len * t.bytes ≤ b.cells.size

/-- Only sizes matter. -/
theorem Fits.changes {W : BlockId → Prop} (h : f.Fits m) (hm : Arena.Changes W m m') :
    f.Fits m' := by
  intro i t write id len hb
  obtain ⟨b, hget, hroom⟩ := h i t write id len hb
  obtain ⟨b', hget', -⟩ := hm.get?_some hget
  exact ⟨b', hget', (hm.cells_size hget hget').2 ▸ hroom⟩

/-- What is seen of a buffer. -/
theorem view_eq {b : Block} (h : f.buffer i t write = .ok (id, len)) (hget : m.get? id = some b)
    (hroom : len * t.bytes ≤ b.cells.size) : f.view m i t write = .ok (id, ⟨b.cells, len⟩) := by
  simp only [view, h, hget, Option.elim_some]
  exact if_pos hroom

end Frame

/-! ### Single accesses -/

namespace Body

variable {f : Frame} {s : Execution} {i len : Nat} {t : ElementType} {id : BlockId} {b : Block}

theorem run_scalar {next : Except DeviceError t.Value → Body} {v : t.Value}
    (h : f.scalar i t = .ok v) : (scalar i t next).run f s = (next (.ok v)).run f s := by
  simp only [run, h]

theorem run_view {next : Except DeviceError (View t) → Body}
    (h : f.buffer i t false = .ok (id, len)) (hget : s.arena.get? id = some b)
    (hroom : len * t.bytes ≤ b.cells.size) :
    (view i t next).run f s = (next (.ok ⟨b.cells, len⟩)).run f s := by
  simp only [run, Frame.view_eq h hget hroom]

theorem run_writable {next : Except DeviceError (View t) → Body}
    (h : f.buffer i t true = .ok (id, len)) (hget : s.arena.get? id = some b)
    (hroom : len * t.bytes ≤ b.cells.size) :
    (writable i t next).run f s = (next (.ok ⟨b.cells, len⟩)).run f s := by
  simp only [run, Frame.view_eq h hget hroom]

theorem run_store {next : Except DeviceError Unit → Body} {place : Nat} {v : t.Value}
    (h : f.buffer i t true = .ok (id, len)) (hget : s.arena.get? id = some b)
    (hroom : len * t.bytes ≤ b.cells.size) (hplace : place < len) :
    (store i t place v next).run f s = (next (.ok ())).run f
      { s with arena := s.arena.modify id (·.patch (place * t.bytes) (t.toBytes v)) } := by
  simp only [run, Frame.view_eq h hget hroom, if_pos hplace]

end Body

/-! ### Grids that fill a buffer -/

/-- Blocks that are there can be held. -/
theorem LockTable.acquire_of_ready {m : Arena} {args : List LaunchArg}
    (h : Kernel.Ready m args) : ∃ locks, acquire m args = .ok locks := by
  refine exists_acquireFrom fun a ha => ?_
  obtain ⟨c, hc, -⟩ := h a ha
  obtain ⟨b, hb, -⟩ := Option.map_eq_some_iff.mp hc
  obtain ⟨id, hid, hget⟩ := Option.bind_eq_some_iff.mp hb
  exact ⟨id, hid, Option.isSome_iff_exists.mpr ⟨b, hget⟩⟩

namespace Kernel

variable {k : Kernel} {f : Frame} {g : Grid} {t : ScalarType} {id : BlockId} {m₀ : Arena}
  {b₀ : Block} {count : Nat} {value : Nat → t.Value}

/-- At every point up to number `count` the body stores one element, at the place of the number. It
may count on having found the places from its own on as they were in the beginning. -/
def Fills (k : Kernel) (f : Frame) (g : Grid) (t : ScalarType) (id : BlockId) (m₀ : Arena)
    (b₀ : Block) (count : Nat) (value : Nat → t.Value) : Prop :=
  ∀ n < count, ∀ s : Execution, ∀ b, Arena.Changes (· = id) m₀ s.arena →
    s.arena.get? id = some b → b.element (.scalar t) n = b₀.element (.scalar t) n →
    (k.body (g.item n)).run f s = (.ok (), { s with
      arena := s.arena.modify id
        (·.patch (n * t.bytes) ((ElementType.scalar t).toBytes (value n))) })

/-- The first places hold the new elements, and the others hold what they held. -/
def Filled (t : ScalarType) (id : BlockId) (m₀ : Arena) (b₀ : Block) (value : Nat → t.Value)
    (n : Nat) (m : Arena) : Prop :=
  Arena.Changes (· = id) m₀ m ∧ ∃ b, m.get? id = some b ∧
    ∀ q, b.element (.scalar t) q = if q < n then value q else b₀.element (.scalar t) q

/-- From point to point, one more place is filled. -/
theorem runItems_of_fills (hfills : k.Fills f g t id m₀ b₀ count value) (hb₀ : m₀.get? id = some b₀)
    (hroom : count * t.bytes ≤ b₀.cells.size) {n first : Nat} {s : Execution}
    (hn : first + n = count) (h : Filled t id m₀ b₀ value first s.arena) :
    ∃ m, k.runItems f g n first s = (.ok (), { s with arena := m }) ∧
      Filled t id m₀ b₀ value count m := by
  induction n generalizing first s with
  | zero =>
    obtain rfl : first = count := hn
    exact ⟨s.arena, rfl, h⟩
  | succ n ih =>
    obtain ⟨hchanges, b, hget, helements⟩ := h
    have hlt : first < count := by omega
    have hstep := hfills first hlt s b hchanges hget (by rw [helements, if_neg (Nat.lt_irrefl _)])
    -- the block has kept its size, so that there is room for the element
    have hcells : (first + 1) * t.bytes ≤ b.cells.size := by
      rw [(hchanges.cells_size hb₀ hget).2]
      exact Nat.le_trans (Nat.mul_le_mul_right _ hlt) hroom
    have hnext : Filled t id m₀ b₀ value (first + 1) (s.arena.modify id
        (·.patch (first * t.bytes) ((ElementType.scalar t).toBytes (value first)))) := by
      refine ⟨hchanges.trans (.modify _ _ _ _),
        b.patch (first * t.bytes) ((ElementType.scalar t).toBytes (value first)), ?_, fun q => ?_⟩
      · rw [Arena.get?_modify_self, hget, Option.map_some]
      · by_cases hq : q = first
        · subst hq
          rw [if_pos (Nat.lt_succ_self _)]
          exact Block.element_patch_self _ hcells
        · refine (Block.element_patch_ne (.scalar t) b (value first) hq).trans ?_
          rw [helements]
          have hiff : q < first + 1 ↔ q < first := by omega
          simp only [hiff]
    have hn' : first + 1 + n = count := by omega
    obtain ⟨m, hrun, hfilled⟩ := ih (s := { s with arena := s.arena.modify id _ }) hn' hnext
    refine ⟨m, ?_, hfilled⟩
    rw [runItems]
    dsimp only
    rw [hstep]
    exact hrun

/-- A kernel whose bodies fill a buffer gets done and leaves the new elements there. -/
theorem execute_of_fills {args : List LaunchArg} {s : Execution}
    (hready : Ready s.arena args)
    (hfills : ∀ locks, LockTable.Covers locks args →
      k.Fills ⟨k.name, k.params, args, locks⟩ g t id s.arena b₀ g.count value)
    (hb₀ : s.arena.get? id = some b₀) (hroom : g.count * t.bytes ≤ b₀.cells.size) :
    ∃ m, k.execute args g s = (.ok (), { s with arena := m }) ∧
      Filled t id s.arena b₀ value g.count m := by
  obtain ⟨locks, hlocks⟩ := LockTable.acquire_of_ready hready
  have hstart : Filled t id s.arena b₀ value 0 s.arena :=
    ⟨.refl _ _, b₀, hb₀, fun q => (if_neg (Nat.not_lt_zero q)).symm⟩
  obtain ⟨m, hrun, hfilled⟩ := runItems_of_fills
    (hfills locks (LockTable.covers_acquire hlocks)) hb₀ hroom (Nat.zero_add _) hstart
  refine ⟨m, ?_, hfilled⟩
  rw [execute_apply, hlocks]
  dsimp only
  rw [Step.mapError_apply, hrun]
  rfl

/-! ### What arguments hold -/

/-- The argument at an index is a buffer in block `id`, that is, in `b`, which holds the elements of
a list. -/
structure Holds (m : Arena) (args : List LaunchArg) (i : Nat) (id : BlockId) (b : Block)
    (vs : List t.Value) : Prop where
  /-- the argument is such a buffer -/
  arg : ∃ a, args[i]? = some (.buffer a) ∧ a.block = some id ∧ a.len = vs.length
  /-- the block is there -/
  get : m.get? id = some b
  /-- it holds the elements and nothing else -/
  content : b.content = (ElementType.scalar t).bytesOf vs

namespace Holds

variable {m m' : Arena} {args : List LaunchArg} {i : Nat} {b : Block} {vs : List t.Value}

theorem blockAt (h : Holds m args i id b vs) : blockAt args i = some id := by
  obtain ⟨a, ha, hid, -⟩ := h.arg
  rw [Kernel.blockAt, ha]
  exact hid

theorem size (h : Holds m args i id b vs) : b.size = t.bytes * vs.length := by
  rw [← b.size_content, h.content, ElementType.size_bytesOf]
  rfl

theorem room (h : Holds m args i id b vs) :
    vs.length * (ElementType.scalar t).bytes ≤ b.cells.size := by
  rw [b.aligned, h.size, Nat.mul_comm]
  exact le_wordAligned _

/-- An element is found in the block. -/
theorem element (h : Holds m args i id b vs) {q : Nat} {v : t.Value} (hv : vs[q]? = some v) :
    b.element (.scalar t) q = v := by
  have hq : (q + 1) * t.bytes ≤ b.size := by
    rw [h.size, Nat.mul_comm]
    exact Nat.mul_le_mul_left _ (List.getElem?_eq_some_iff.mp hv).1
  have hcontent := Block.valueAt_content (.scalar t) b hq
  rw [h.content] at hcontent
  exact hcontent.symm.trans (ElementType.valueAt_bytesOf (t := .scalar t) hv)

/-- What a kernel sees of the argument. -/
theorem toList (h : Holds m args i id b vs) :
    (⟨b.cells, vs.length⟩ : View (.scalar t)).toList = vs := by
  refine List.ext_getElem? fun q => ?_
  rw [View.toList, List.getElem?_map]
  rcases hv : vs[q]? with _ | v
  · rw [List.getElem?_eq_none (by simpa using List.getElem?_eq_none_iff.mp hv)]
    rfl
  · rw [List.getElem?_range (List.getElem?_eq_some_iff.mp hv).1]
    exact congrArg some (h.element hv)

/-- The buffer is found for its parameter. -/
theorem buffer {access : Access} {write : Bool} {locks : LockTable} (h : Holds m args i id b vs)
    (hlocks : LockTable.Covers locks args)
    (hp : k.params[i]? = some (.buffer (.scalar t) access))
    (hw : write = true → access.writes = true) :
    Frame.buffer ⟨k.name, k.params, args, locks⟩ i (.scalar t) write = .ok (id, vs.length) := by
  obtain ⟨a, ha, hid, hlen⟩ := h.arg
  have hl : locks.block? i = some id := (hlocks.block i _ ha).trans hid
  rw [Frame.buffer_eq hp ha hl hw, hlen]

/-- There is room for as many elements, whatever becomes of them. -/
theorem room_of_changes {W : BlockId → Prop} {b' : Block} (h : Holds m args i id b vs)
    (hm : Arena.Changes W m m') (hb' : m'.get? id = some b') :
    vs.length * (ElementType.scalar t).bytes ≤ b'.cells.size :=
  (hm.cells_size h.get hb').2 ▸ h.room

/-- The argument holds the same where another block changes. -/
theorem get_of_changes {id' : BlockId} (h : Holds m args i id b vs)
    (hm : Arena.Changes (· = id') m m') (hne : id ≠ id') : m'.get? id = some b :=
  (hm.same id hne).trans h.get

end Holds

/-- Given these arguments, the kernel gets done and leaves `out` in the buffer at index `i`. -/
def Produces (k : Kernel) (m : Arena) (args : List LaunchArg) (i : Nat) (out : Bytes) :
    Prop :=
  ∃ g, k.grid args = .ok g ∧ ∀ notes, (k.execute args g ⟨m, notes⟩).1 = .ok () ∧
    contentAt (k.execute args g ⟨m, notes⟩).2.arena args i = some out

/-- A kernel whose bodies fill a buffer produces a list that has the new elements in the first
places and is otherwise the same as before. -/
theorem produces_of_fills {m : Arena} {args : List LaunchArg} {i : Nat} {b : Block}
    {vs out : List t.Value} (value : Nat → t.Value) (ht : t ≠ .bool) (hready : Ready m args)
    (hgrid : k.grid args = .ok g) (h : Holds m args i id b vs) (hcount : g.count ≤ vs.length)
    (hfills : ∀ locks, LockTable.Covers locks args →
      k.Fills ⟨k.name, k.params, args, locks⟩ g t id m b g.count value)
    (hlen : out.length = vs.length) (hnew : ∀ q < g.count, out[q]? = some (value q))
    (hold : ∀ q, g.count ≤ q → out[q]? = vs[q]?) :
    k.Produces m args i ((ElementType.scalar t).bytesOf out) := by
  refine ⟨g, hgrid, fun notes => ?_⟩
  have hroom : g.count * t.bytes ≤ b.cells.size :=
    Nat.le_trans (Nat.mul_le_mul_right _ hcount) h.room
  obtain ⟨m', hrun, hchanges, b', hget', helements⟩ :=
    execute_of_fills (s := ⟨m, notes⟩) hready hfills h.get hroom
  rw [hrun]
  refine ⟨rfl, ?_⟩
  have hsize : b'.size = t.bytes * out.length := by
    rw [(hchanges.cells_size h.get hget').1, h.size, hlen]
  rw [contentAt_eq, h.blockAt, Option.bind_some, hget', Option.map_some]
  refine congrArg some (Block.content_eq ht hsize fun q v hv => ?_)
  rw [helements]
  split
  · rename_i hq
    exact Option.some.inj ((hnew q hq).symm.trans hv)
  · rename_i hq
    exact h.element ((hold q (Nat.le_of_not_lt hq)).symm.trans hv)

/-- A kernel whose bodies fill a buffer to its end leaves nothing but new elements. -/
theorem produces_range_of_fills {m : Arena} {args : List LaunchArg} {i n : Nat} {b : Block}
    {vs : List t.Value} (value : Nat → t.Value) (ht : t ≠ .bool) (hready : Ready m args)
    (hgrid : k.grid args = .ok g) (h : Holds m args i id b vs) (hcount : g.count = n)
    (hlen : vs.length = n)
    (hfills : ∀ locks, LockTable.Covers locks args →
      k.Fills ⟨k.name, k.params, args, locks⟩ g t id m b n value) :
    k.Produces m args i ((ElementType.scalar t).bytesOf ((List.range n).map value)) := by
  subst hcount
  refine produces_of_fills value ht hready hgrid h (Nat.le_of_eq hlen.symm) hfills (by simp [hlen])
    (fun q hq => ?_) fun q hq => ?_
  · rw [List.getElem?_map, List.getElem?_range hq]
    rfl
  · rw [List.getElem?_eq_none (by simpa using hq), List.getElem?_eq_none (hlen ▸ hq)]

end Kernel

end Offload
